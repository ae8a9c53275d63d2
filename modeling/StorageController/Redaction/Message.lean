import StorageController.Fault
import StorageController.Redaction.Pattern
import StorageController.Text.Unicode.Blank
import StorageController.Text.Unicode.Word

namespace StorageController.Redaction

open Text

/-- A small ASCII letter in any case. The letters i, k and s have further forms outside ASCII. -/
def foldsTo (letter c : Char) : Bool :=
  c.toLower == letter || (letter == 'i' && (c == 'İ' || c == 'ı')) ||
    (letter == 'k' && c.toNat == 0x212a) || (letter == 's' && c == 'ſ')

def word (letters : String) : Pattern :=
  letters.toList.map fun letter => .one (foldsTo letter)

/-- A character of a token: an ASCII letter in any case, a digit, or one of `-._~+/`. -/
def isTokenChar (c : Char) : Bool :=
  c.isAlphanum || c == '-' || c == '.' || c == '_' || c == '~' || c == '+' || c == '/' ||
    c == 'İ' || c == 'ı' || c == 'ſ' || c.toNat == 0x212a

/-- A character of a value: no blank, comma, semicolon or closing parenthesis. -/
def isValueChar (c : Char) : Bool :=
  !(isBlank c || c == ',' || c == ';' || c == ')')

/-- What may stand between the parts of a keyword. -/
def isJoint (c : Char) : Bool :=
  isBlank c || c == '_' || c == '-'

/-- What stands between a header and its value. -/
def isColon (c : Char) : Bool :=
  isBlank c || c == ':'

/-- What stands between a field and its value. -/
def isAssignment (c : Char) : Bool :=
  isBlank c || c == ':' || c == '='

def mask : String := "[REDACTED]"

/-- The keyword as it was found, and the mask. -/
def keepTrigger (trigger : List Char) : List Char :=
  trigger ++ ' ' :: mask.toList

def bearerRule : Rule where
  after _ := true
  triggers := [word "bearer"]
  tail := [.some isBlank, .some isTokenChar, .many (· == '=')]
  replacement := keepTrigger

/-- An authorization header; its value ends at the first blank. -/
def authorizationRule : Rule where
  after _ := true
  triggers := [word "authorization"]
  tail := [.some isColon, .some isValueChar]
  replacement := keepTrigger

def clientData (kind : String) : Pattern :=
  word "client" ++ .optional isJoint :: word kind ++ .optional isJoint :: word "data"

def clientDataRule : Rule where
  after _ := true
  triggers := [clientData "certificate", clientData "key"]
  tail := [.some isColon, .some isValueChar]
  replacement := keepTrigger

/-- The value of a sensitive field. The field starts a word and is written in small letters. -/
def fieldRule (field : String) : Rule where
  after c := !isWord c
  triggers := [word field]
  tail := [.some isAssignment, .some isValueChar]
  replacement _ := field.toList ++ ':' :: ' ' :: mask.toList

def sensitiveFields : List String :=
  ["password", "secret", "credentials", "token"]

/-- The message with every secret masked, the sensitive fields being visited in the given order. -/
def redactWith (fields : List String) (message : String) : String :=
  let rules := [bearerRule, authorizationRule, clientDataRule] ++ fields.map fieldRule
  String.ofList (rules.foldl (fun s rule => rule.apply s) message.toList)

/-- The order in which a process visits the sensitive fields. The fields are a set, so it differs
from process to process. -/
class VisitingOrder where
  fields : List String
  complete : fields.Perm sensitiveFields

section

variable [VisitingOrder]

def redact (message : String) : String :=
  redactWith VisitingOrder.fields message

def redactFault (fault : Fault) : String :=
  redact fault.text

end

namespace TokenFirst

scoped instance order : VisitingOrder where
  fields := ["token", "secret", "password", "credentials"]
  complete := by decide

end TokenFirst

end StorageController.Redaction
