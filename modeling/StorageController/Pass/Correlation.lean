import StorageController.Pass.Basic
import StorageController.Text.Hex

namespace StorageController

namespace Correlation

def current (c : Correlation) : Option String :=
  c.active.head?

/-- The identifier that is generated as the one of a number. -/
def identifier (c : Correlation) (number : Nat) : String :=
  String.ofList (Text.hex 32 (c.draw number))

def generate (c : Correlation) : Correlation :=
  { c with
    active := c.identifier (c.generated + 1) :: c.active
    generated := c.generated + 1 }

/-- The identifier that a block enters with: the given one, or a new one in place of an empty one. -/
def enter (given : Option String) (c : Correlation) : Correlation :=
  match given with
  | some id => if id = "" then c.generate else { c with active := id :: c.active }
  | none => c.generate

def leave (c : Correlation) : Correlation :=
  { c with active := c.active.tail }

/-- What a log line is to say about its context, before and after further members. -/
def describe (c : Correlation) (further : Fields) : Fields :=
  match c.current with
  | some id => Json.updateFields [("correlation_id", .str id)] further
  | none => further

end Correlation

namespace Pass

variable {α : Type}

def correlated (given : Option String) (block : Pass α) : Pass α := do
  modify fun c => { c with correlation := c.correlation.enter given }
  let outcome ← attempt block
  modify fun c => { c with correlation := c.correlation.leave }
  ofExcept outcome

end Pass

end StorageController
