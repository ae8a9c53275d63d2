namespace StorageController.Redaction

inductive Piece where
  | one (ofClass : Char → Bool)
  | optional (ofClass : Char → Bool)
  | many (ofClass : Char → Bool)
  | some (ofClass : Char → Bool)

abbrev Pattern := List Piece

/-- The first success of `next` after as many characters of the class as possible. -/
def tryMany {β : Type} (ofClass : Char → Bool) (next : List Char → Option β) :
    List Char → Option β
  | [] => next []
  | c :: rest =>
    if ofClass c then (tryMany ofClass next rest).or (next (c :: rest)) else next (c :: rest)

def Piece.run {β : Type} (piece : Piece) (next : List Char → Option β) (s : List Char) :
    Option β :=
  match piece, s with
  | .one ofClass, c :: rest => if ofClass c then next rest else none
  | .one _, [] => none
  | .optional ofClass, c :: rest =>
    if ofClass c then (next rest).or (next (c :: rest)) else next (c :: rest)
  | .optional _, [] => next []
  | .many ofClass, s => tryMany ofClass next s
  | .some ofClass, c :: rest => if ofClass c then tryMany ofClass next rest else none
  | .some _, [] => none

def Pattern.run {β : Type} : Pattern → (List Char → Option β) → List Char → Option β
  | [], next, s => next s
  | piece :: pieces, next, s => piece.run (Pattern.run pieces next) s

/-- A replacement: where one of the triggers is followed by the tail, both give way to a text that
may repeat the trigger. -/
structure Rule where
  /-- The character before a match, if there is one, is of this class. -/
  after : Char → Bool
  triggers : List Pattern
  tail : Pattern
  replacement : List Char → List Char

namespace Rule

/-- A match at the start of `s`: how many characters it takes, and what replaces them. -/
def matchAt (rule : Rule) (before : Option Char) (s : List Char) : Option (Nat × List Char) :=
  if before.all rule.after then
    rule.triggers.findSome? fun trigger =>
      trigger.run (fun middle =>
        rule.tail.run (fun rest =>
          some (s.length - rest.length, rule.replacement (s.take (s.length - middle.length))))
          middle) s
  else none

/-- The text with every match replaced, the leftmost first; the first `skip` characters belong to
the match before. -/
def applyFrom (rule : Rule) (before : Option Char) (skip : Nat) : List Char → List Char
  | [] => []
  | c :: rest =>
    match skip with
    | skip + 1 => applyFrom rule (some c) skip rest
    | 0 =>
      match rule.matchAt before (c :: rest) with
      | some (taken, replacement) => replacement ++ applyFrom rule (some c) (taken - 1) rest
      | none => c :: applyFrom rule (some c) 0 rest

def apply (rule : Rule) (s : List Char) : List Char :=
  applyFrom rule none 0 s

end Rule

end StorageController.Redaction
