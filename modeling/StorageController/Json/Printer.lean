import StorageController.Json.Basic
import StorageController.Number.Shortest
import StorageController.Text.Hex

namespace StorageController.Json

open Text

def escapeUnit (n : Nat) : List Char :=
  '\\' :: 'u' :: hex 4 n

def escapeChar (c : Char) : List Char :=
  if c = '"' ∨ c = '\\' then ['\\', c]
  else if c = '\n' then ['\\', 'n']
  else if c = '\r' then ['\\', 'r']
  else if c = '\t' then ['\\', 't']
  else if c.toNat = 0x08 then ['\\', 'b']
  else if c.toNat = 0x0c then ['\\', 'f']
  else if 0x20 ≤ c.toNat ∧ c.toNat ≤ 0x7e then [c]
  else if c.toNat < 0x10000 then escapeUnit c.toNat
  else
    let rest := c.toNat - 0x10000
    escapeUnit (0xd800 + rest / 0x400) ++ escapeUnit (0xdc00 + rest % 0x400)

def stringText (s : String) : List Char :=
  '"' :: s.toList.flatMap escapeChar ++ ['"']

def intText (n : Int) : List Char :=
  if n < 0 then '-' :: Nat.toDigits 10 n.natAbs else Nat.toDigits 10 n.natAbs

/-- What stands between two items, and between a name and its value. -/
structure Separators where
  item : List Char
  key : List Char

def Separators.compact : Separators := ⟨[','], [':']⟩

def Separators.spaced : Separators := ⟨[',', ' '], [':', ' ']⟩

def braces : Char × Char := ('\x7b', '\x7d')

mutual

def render (sep : Separators) : Json → List Char
  | .null => "null".toList
  | .bool b => if b then "true".toList else "false".toList
  | .int n => intText n
  | .float x => x.text
  | .str s => stringText s
  | .arr items => '[' :: renderItems sep items ++ [']']
  | .obj fields => braces.1 :: renderFields sep fields ++ [braces.2]

def renderItems (sep : Separators) : List Json → List Char
  | [] => []
  | [item] => render sep item
  | item :: rest => render sep item ++ sep.item ++ renderItems sep rest

def renderFields (sep : Separators) : Fields → List Char
  | [] => []
  | [(key, value)] => stringText key ++ sep.key ++ render sep value
  | (key, value) :: rest =>
    stringText key ++ sep.key ++ render sep value ++ sep.item ++ renderFields sep rest

end

/-- The members with one more, in order of names, before the first name that is not smaller. -/
def insertSorted (key : String) (value : Json) : Fields → Fields
  | [] => [(key, value)]
  | (k, v) :: rest =>
    if k < key then (k, v) :: insertSorted key value rest else (key, value) :: (k, v) :: rest

mutual

/-- The document with the members of every object in order of names. -/
def sortKeys : Json → Json
  | .arr items => .arr (sortItems items)
  | .obj fields => .obj (sortFields fields)
  | scalar => scalar

def sortItems : List Json → List Json
  | [] => []
  | item :: rest => sortKeys item :: sortItems rest

def sortFields : Fields → Fields
  | [] => []
  | (key, value) :: rest => insertSorted key (sortKeys value) (sortFields rest)

end

/-- The canonical text: names sorted, no blanks. -/
def canonical (j : Json) : String :=
  String.ofList (render .compact (sortKeys j))

def line (j : Json) : String :=
  String.ofList (render .spaced j)

end StorageController.Json
