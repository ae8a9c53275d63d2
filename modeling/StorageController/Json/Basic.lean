import StorageController.Number.Double

namespace StorageController

inductive Json where
  | null
  | bool (b : Bool)
  | int (n : Int)
  | float (x : Double)
  | str (s : String)
  | arr (items : List Json)
  | obj (fields : List (String × Json))
deriving Inhabited, Repr

/-- The members of an object, in order. -/
abbrev Fields := List (String × Json)

inductive Shape where
  | null
  | bool
  | int
  | float
  | str
  | arr
  | obj
deriving DecidableEq, Repr

namespace Json

instance : Coe String Json := ⟨.str⟩

mutual

/-- Identity of documents: same spelling of numbers and same order of members. -/
def decEq : (a b : Json) → Decidable (a = b)
  | .null, .null => isTrue rfl
  | .bool a, .bool b => if h : a = b then isTrue (by rw [h]) else isFalse (by simpa using h)
  | .int a, .int b => if h : a = b then isTrue (by rw [h]) else isFalse (by simpa using h)
  | .float a, .float b => if h : a = b then isTrue (by rw [h]) else isFalse (by simpa using h)
  | .str a, .str b => if h : a = b then isTrue (by rw [h]) else isFalse (by simpa using h)
  | .arr a, .arr b =>
    match decEqItems a b with
    | isTrue h => isTrue (by rw [h])
    | isFalse h => isFalse (by simpa using h)
  | .obj a, .obj b =>
    match decEqFields a b with
    | isTrue h => isTrue (by rw [h])
    | isFalse h => isFalse (by simpa using h)
  | .null, .bool _ | .null, .int _ | .null, .float _ | .null, .str _ | .null, .arr _
  | .null, .obj _ | .bool _, .null | .bool _, .int _ | .bool _, .float _ | .bool _, .str _
  | .bool _, .arr _ | .bool _, .obj _ | .int _, .null | .int _, .bool _ | .int _, .float _
  | .int _, .str _ | .int _, .arr _ | .int _, .obj _ | .float _, .null | .float _, .bool _
  | .float _, .int _ | .float _, .str _ | .float _, .arr _ | .float _, .obj _ | .str _, .null
  | .str _, .bool _ | .str _, .int _ | .str _, .float _ | .str _, .arr _ | .str _, .obj _
  | .arr _, .null | .arr _, .bool _ | .arr _, .int _ | .arr _, .float _ | .arr _, .str _
  | .arr _, .obj _ | .obj _, .null | .obj _, .bool _ | .obj _, .int _ | .obj _, .float _
  | .obj _, .str _ | .obj _, .arr _ => isFalse (by simp)

def decEqItems : (a b : List Json) → Decidable (a = b)
  | [], [] => isTrue rfl
  | [], _ :: _ | _ :: _, [] => isFalse (by simp)
  | x :: xs, y :: ys =>
    match decEq x y, decEqItems xs ys with
    | isTrue h, isTrue t => isTrue (by rw [h, t])
    | isFalse h, _ => isFalse (by simp [h])
    | _, isFalse t => isFalse (by simp [t])

def decEqFields : (a b : Fields) → Decidable (a = b)
  | [], [] => isTrue rfl
  | [], _ :: _ | _ :: _, [] => isFalse (by simp)
  | (j, x) :: xs, (k, y) :: ys =>
    if hk : j = k then
      match decEq x y, decEqFields xs ys with
      | isTrue h, isTrue t => isTrue (by rw [hk, h, t])
      | isFalse h, _ => isFalse (by simp [h])
      | _, isFalse t => isFalse (by simp [t])
    else isFalse (by simp [hk])

end

instance : DecidableEq Json := decEq

def shape : Json → Shape
  | .null => .null
  | .bool _ => .bool
  | .int _ => .int
  | .float _ => .float
  | .str _ => .str
  | .arr _ => .arr
  | .obj _ => .obj

/-- A document that stands for something: not null, false, zero or empty. -/
def truthy : Json → Bool
  | .null => false
  | .bool b => b
  | .int n => n != 0
  | .float x => x.significand != 0
  | .str s => s != ""
  | .arr items => !items.isEmpty
  | .obj fields => !fields.isEmpty

/-- The document, or a default in place of one that stands for nothing. -/
def orElse (j default : Json) : Json :=
  if j.truthy then j else default

/-- The member of a name; none for a document that is not an object. -/
def get? : Json → String → Option Json
  | .obj fields, key => fields.lookup key
  | _, _ => none

def members : Json → Fields
  | .obj fields => fields
  | _ => []

/-- The members with `key` set to `value`: in its place if it is there, else at the end. -/
def setField (key : String) (value : Json) : Fields → Fields
  | [] => [(key, value)]
  | (k, v) :: rest => if k = key then (k, value) :: rest else (k, v) :: setField key value rest

theorem lookup_setField (key k : String) (value : Json) (fields : Fields) :
    (setField key value fields).lookup k = if k = key then some value else fields.lookup k := by
  induction fields with
  | nil => grind [setField]
  | cons field rest ih => grind [setField]

def eraseField (key : String) (fields : Fields) : Fields :=
  fields.filter (·.1 ≠ key)

theorem lookup_eraseField (key k : String) (fields : Fields) :
    (eraseField key fields).lookup k = if k = key then none else fields.lookup k := by
  induction fields with
  | nil => simp [eraseField]
  | cons field rest ih => grind [eraseField]

/-- The members of `fields`, overridden and extended by those of `news`. -/
def updateFields (fields news : Fields) : Fields :=
  news.foldl (fun fs (k, v) => setField k v fs) fields

/-- The worth of a number or truth value. -/
def worth? : Json → Option Rat
  | .bool b => some (if b then 1 else 0)
  | .int n => some n
  | .float x => some x.toRat
  | _ => none

/-- Two documents of which neither is an object or a list have the same worth. -/
def sameScalar : Json → Json → Bool
  | .null, .null => true
  | .str a, .str b => a == b
  | a, b =>
    match a.worth?, b.worth? with
    | some x, some y => x == y
    | _, _ => false

mutual

/-- Equality of documents: numbers by worth, lists item by item, objects member by member. -/
def same : Json → Json → Bool
  | .arr xs, b => match b with
    | .arr ys => sameItems xs ys
    | _ => false
  | .obj xs, b => match b with
    | .obj ys => xs.length == ys.length && sameFields xs ys
    | _ => false
  | a, b => sameScalar a b

def sameItems : List Json → List Json → Bool
  | [], [] => true
  | x :: xs, y :: ys => same x y && sameItems xs ys
  | _, _ => false

/-- Every member on the left has an equal one of its name on the right. -/
def sameFields : Fields → Fields → Bool
  | [], _ => true
  | (k, v) :: rest, ys =>
    (match ys.lookup k with
      | some w => same v w
      | none => false) && sameFields rest ys

end


end Json

end StorageController
