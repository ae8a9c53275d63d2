import StorageController.Json.Display

namespace StorageController

inductive Fault where
  | operator (message : String)
  | notFound (message : String)
  /-- The network or the API server failed, with the status it answered, if any. -/
  | transport (message : String) (status : Json)
  | conflict (message : String)
  | invalid (message : String)
  /-- A text does not spell the value it has to. -/
  | badValue (message : String)
  | badState (message : String)
  | unexpected (message : String)
  /-- A member is looked up in, or a member operation applied to, what is not an object. -/
  | notObject (shape : Shape) (operation : String)
  | noImage (domain : String)
  /-- The items of what has no items are asked for. -/
  | notList (shape : Shape)
  /-- A count is compared with what is not a number. -/
  | notNumber (shape : Shape)
  | notText (shape : Shape)
  | reserved (name : String)
  /-- An object lacks a member that it has to have. -/
  | missing (key : String)
  | overflow
  | divisionByZero
  | noCredentials
deriving DecidableEq

def Shape.name : Shape → String
  | .null => "NoneType"
  | .bool => "bool"
  | .int => "int"
  | .float => "float"
  | .str => "str"
  | .arr => "list"
  | .obj => "dict"

namespace Fault

/-- The name under which a fault is counted and logged. -/
def kind : Fault → String
  | .operator _ => "OperatorError"
  | .notFound _ => "NotFoundError"
  | .transport _ _ => "TransportError"
  | .conflict _ => "ConflictError"
  | .invalid _ => "ValidationError"
  | .badValue _ => "ValueError"
  | .badState _ => "RuntimeError"
  | .unexpected _ => "Exception"
  | .notObject _ _ => "AttributeError"
  | .noImage _ => "AttributeError"
  | .notList _ => "TypeError"
  | .notNumber _ => "TypeError"
  | .notText _ => "TypeError"
  | .reserved _ => "TypeError"
  | .missing _ => "KeyError"
  | .overflow => "OverflowError"
  | .divisionByZero => "ZeroDivisionError"
  | .noCredentials => "ConfigException"

def text : Fault → String
  | .operator message | .notFound message | .transport message _ | .conflict message
  | .invalid message | .badValue message | .badState message | .unexpected message => message
  | .notObject shape operation =>
    "'" ++ shape.name ++ "' object has no attribute '" ++ operation ++ "'"
  | .noImage domain => "there is no image for the domain '" ++ domain ++ "'"
  | .notList shape => "'" ++ shape.name ++ "' object is not iterable"
  | .notNumber shape =>
    "'>=' not supported between instances of '" ++ shape.name ++ "' and 'int'"
  | .notText shape => "a text is expected, not '" ++ shape.name ++ "'"
  | .reserved name => "the name '" ++ name ++ "' is taken"
  | .missing key => String.ofList (Text.quoted key)
  | .overflow => "numerical result out of range"
  | .divisionByZero => "float division by zero"
  | .noCredentials => "Invalid kube-config file. No configuration found."

/-- The errors that the operator expects of the cluster and of declared objects. -/
def isOperator : Fault → Bool
  | .operator _ | .notFound _ | .transport _ _ | .conflict _ | .invalid _ => true
  | _ => false

end Fault

namespace Json

def lookup (j : Json) (key : String) : Except Fault (Option Json) :=
  match j with
  | .obj fields => .ok (fields.lookup key)
  | j => .error (.notObject j.shape "get")

def lookupD (j : Json) (key : String) (default : Json) : Except Fault Json :=
  (j.lookup key).map (·.getD default)

/-- The member of a name, or a default if it is absent or stands for nothing. -/
def lookupOr (j : Json) (key : String) (default : Json) : Except Fault Json :=
  (j.lookup key).map fun value => (value.getD .null).orElse default

/-- What an enumeration of a document meets: the items of a list, the names of an object, the
characters of a string. -/
def items : Json → Except Fault (List Json)
  | .arr items => .ok items
  | .obj fields => .ok (fields.map fun (key, _) => .str key)
  | .str s => .ok (s.toList.map fun c => .str (String.singleton c))
  | j => .error (.notList j.shape)

end Json

end StorageController
