import StorageController.Redaction.Message
import StorageController.Text.Unicode.Lowercase

namespace StorageController.Redaction

open Text

variable [VisitingOrder]

def occursIn (part : List Char) : (whole : List Char) → Bool
  | [] => part.isEmpty
  | c :: rest => part.isPrefixOf (c :: rest) || occursIn part rest

/-- A name whose lower-case form contains a sensitive field or one of the further keys. -/
def isSensitive (keys : List String) (name : String) : Bool :=
  (sensitiveFields ++ keys).any fun key => occursIn key.toList (lower name).toList

/-- The members of an object with the values of sensitive members masked. -/
def redactFields (keys : List String) : Fields → Fields
  | [] => []
  | (name, .obj fields) :: rest =>
    (name, if isSensitive keys name then .str mask else .obj (redactFields keys fields)) ::
      redactFields keys rest
  | (name, .str s) :: rest =>
    (name, if isSensitive keys name then .str mask else .str (redact s)) :: redactFields keys rest
  | (name, value) :: rest =>
    (name, if isSensitive keys name then .str mask else value) :: redactFields keys rest

/-- The text with every secret masked; what is no text is refused. -/
def redactText : Json → Except Fault Json
  | .str s => .ok (.str (redact s))
  | j => .error (.notText j.shape)

def redactDocument (keys : List String) : Json → Except Fault Json
  | .obj fields => .ok (.obj (redactFields keys fields))
  | j => .error (.notObject j.shape "items")

end StorageController.Redaction
