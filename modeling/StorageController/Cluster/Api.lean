import StorageController.Fault

namespace StorageController

/-- A request to the cluster. Namespaces and names are passed on as they were read. -/
inductive Request where
  | readStorage (ns name : Json)
  /-- Merge a patch into the status of a storage resource. -/
  | patchStatus (ns name status : Json)
  | annotate (ns name notes : Json)
  | readSet (ns name : Json)
  | createSet (ns body : Json)
  | patchSet (ns name patch : Json)
deriving DecidableEq

namespace Request

def operation : Request → String
  | .readStorage _ _ => "get_swift_storage"
  | .patchStatus _ _ _ => "patch_swift_storage_status"
  | .annotate _ _ _ => "annotate_swift_storage"
  | .readSet _ _ => "get_stateful_set"
  | .createSet _ _ => "create_stateful_set"
  | .patchSet _ _ _ => "patch_stateful_set"

def arguments : Request → List Json
  | .readStorage ns name | .readSet ns name => [ns, name]
  | .patchStatus ns name body | .annotate ns name body | .patchSet ns name body => [ns, name, body]
  | .createSet ns body => [ns, body]

end Request

abbrev Reply := Except Fault Json

inductive Calls (α : Type) where
  | ret (result : α)
  | call (request : Request) (next : Reply → Calls α)

namespace Calls

variable {α β σ : Type}

def bind : Calls α → (α → Calls β) → Calls β
  | .ret result, f => f result
  | .call request next, f => .call request fun reply => (next reply).bind f

instance : Monad Calls where
  pure := .ret
  bind := .bind

theorem bind_assoc {γ : Type} (program : Calls α) (f : α → Calls β) (g : β → Calls γ) :
    (program.bind f).bind g = program.bind fun result => (f result).bind g := by
  induction program with
  | ret result => rfl
  | call request next ih => simp only [Calls.bind, ih]

theorem bind_ret (program : Calls α) : program.bind .ret = program := by
  induction program with
  | ret result => rfl
  | call request next ih => simp only [Calls.bind, ih]

instance : LawfulMonad Calls :=
  LawfulMonad.mk' Calls bind_ret (fun _ _ => rfl) bind_assoc

def ask (request : Request) : Calls Reply :=
  .call request .ret

/-- A program with the answers that the server gives from state to state: the result, the last
state, and the requests in order. -/
def run (answer : Request → σ → Reply × σ) : Calls α → σ → α × σ × List Request
  | .ret result, state => (result, state, [])
  | .call request next, state =>
    let (reply, after) := answer request state
    let (result, last, requests) := (next reply).run answer after
    (result, last, request :: requests)

end Calls

end StorageController
