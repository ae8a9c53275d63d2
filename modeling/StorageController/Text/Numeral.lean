import StorageController.Number.Double
import StorageController.Text.Unicode.Blank
import StorageController.Text.Unicode.Digit

namespace StorageController.Text

/-- A character with digits of other scripts turned into ASCII digits, and blanks into spaces. A text
in ASCII is left as it is; other characters outside ASCII fit nowhere. -/
def plain (s : List Char) : List Char :=
  if s.all (·.toNat < 0x80) then s
  else
    s.map fun c =>
      if c.toNat < 0x80 then c
      else if isBlank c then ' '
      else
        match digitValue? c with
        | some d => Char.ofNat (0x30 + d)
        | none => '?'

def isAsciiBlank (c : Char) : Bool :=
  c = ' ' || (0x09 ≤ c.toNat && c.toNat ≤ 0x0d)

def trimAscii (s : List Char) : List Char :=
  ((s.dropWhile isAsciiBlank).reverse.dropWhile isAsciiBlank).reverse

/-- The text without underscores; none if one of them does not stand between two digits. -/
def dropUnderscores (before : Char) : List Char → Option (List Char)
  | [] => if before = '_' then none else some []
  | c :: rest =>
    if c = '_' then
      if before.isDigit then dropUnderscores c rest else none
    else if before = '_' && !c.isDigit then none
    else (dropUnderscores c rest).map (c :: ·)

def splitSign : List Char → Bool × List Char
  | '-' :: rest => (true, rest)
  | '+' :: rest => (false, rest)
  | s => (false, s)

def decimalValue (digits : List Char) : Nat :=
  digits.foldl (fun n c => n * 10 + (c.toNat - 0x30)) 0

def maxDigits : Nat := 4300

def wholeNumber? (s : String) : Option Int :=
  let (negative, body) := splitSign (trimAscii (plain s.toList))
  match dropUnderscores ' ' body with
  | some digits =>
    if digits.isEmpty || !digits.all Char.isDigit || maxDigits < digits.length then none
    else some (if negative then -(decimalValue digits : Int) else decimalValue digits)
  | none => none

/-- An exponent and nothing after it; an absent one is zero. -/
def exponent? : List Char → Option Int
  | [] => some 0
  | c :: rest =>
    if c = 'e' || c = 'E' then
      let (negative, digits) := splitSign rest
      if digits.isEmpty || !digits.all Char.isDigit then none
      else some (if negative then -(decimalValue digits : Int) else decimalValue digits)
    else none

/-- The floating-point number of a sign and a size that may be beyond the range. -/
def signed (negative : Bool) (size : Float) : Float :=
  if negative then -size else size

/-- The number that an unsigned text spells with digits, a point and an exponent. -/
def decimal? (negative : Bool) (s : List Char) : Option Float :=
  let whole := s.takeWhile Char.isDigit
  let rest := s.dropWhile Char.isDigit
  let (fraction, rest) := match rest with
    | '.' :: rest => (rest.takeWhile Char.isDigit, rest.dropWhile Char.isDigit)
    | rest => ([], rest)
  if whole.isEmpty && fraction.isEmpty then none
  else
    (exponent? rest).map fun e =>
      match Double.ofDecimal? negative (decimalValue (whole ++ fraction)) (e - fraction.length) with
      | some x => x.toFloat
      | none => signed negative (1.0 / 0.0)

def number? (s : String) : Option Float :=
  match dropUnderscores ' ' (trimAscii (plain s.toList)) with
  | some body =>
    let (negative, size) := splitSign body
    let name := String.ofList (size.map Char.toLower)
    if name = "inf" || name = "infinity" then some (signed negative (1.0 / 0.0))
    else if name = "nan" then some (signed negative (0.0 / 0.0))
    else decimal? negative size
  | none => none

end StorageController.Text
