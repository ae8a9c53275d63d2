import StorageController.Json.Printer
import StorageController.Text.Quoted

namespace StorageController.Json

open Text

mutual

/-- A document as a message shows it when it complains about it. -/
def quote : Json → List Char
  | .null => "None".toList
  | .bool b => if b then "True".toList else "False".toList
  | .int n => intText n
  | .float x => x.text
  | .str s => quoted s
  | .arr items => '[' :: quoteItems items ++ [']']
  | .obj fields => braces.1 :: quoteFields fields ++ [braces.2]

def quoteItems : List Json → List Char
  | [] => []
  | [item] => quote item
  | item :: rest => quote item ++ [',', ' '] ++ quoteItems rest

def quoteFields : Fields → List Char
  | [] => []
  | [(key, value)] => quoted key ++ [':', ' '] ++ quote value
  | (key, value) :: rest =>
    quoted key ++ [':', ' '] ++ quote value ++ [',', ' '] ++ quoteFields rest

end

/-- A document as part of a sentence: a string is itself, anything else as `quote` shows it. -/
def display : Json → String
  | .str s => s
  | j => String.ofList (quote j)

end StorageController.Json
