import StorageController.Cluster.Store

namespace StorageController

/-- A failure of an operation: so many times, or for ever. -/
structure Failure where
  operation : String
  fault : Fault
  times : Option Nat

/-- A cluster with what is going to happen in it. -/
structure Rehearsal where
  store : Store := {}
  failures : List Failure := []
  /-- Acts of others before the next request of an operation. -/
  pending : List (String × List Store.Act) := []

namespace Rehearsal

def takeFailure (operation : String) : List Failure → Option Fault × List Failure
  | [] => (none, [])
  | f :: rest =>
    if f.operation = operation then
      match f.times with
      | none => (some f.fault, f :: rest)
      | some (n + 2) => (some f.fault, { f with times := some (n + 1) } :: rest)
      | some _ => (some f.fault, rest)
    else
      let (fault, left) := takeFailure operation rest
      (fault, f :: left)

def actsBefore (operation : String) (pending : List (String × List Store.Act)) :
    List Store.Act :=
  (pending.filter (·.1 = operation)).flatMap (·.2)

/-- The answer to a request: the acts before it happen, then it fails if it has to, else the store
answers. -/
def answer (request : Request) (r : Rehearsal) : Reply × Rehearsal :=
  let operation := request.operation
  let store := (actsBefore operation r.pending).foldl Store.after r.store
  let pending := r.pending.filter (·.1 ≠ operation)
  let (fault, failures) := takeFailure operation r.failures
  match fault with
  | some fault => (.error fault, { store, failures, pending })
  | none =>
    let (reply, store) := store.answer request
    (reply, { store, failures, pending })

def fail (r : Rehearsal) (failure : Failure) : Rehearsal :=
  { r with failures := r.failures ++ [failure] }

def heal (r : Rehearsal) (operation : String) : Rehearsal :=
  { r with failures := r.failures.filter (·.operation ≠ operation) }

def before (r : Rehearsal) (operation : String) (acts : List Store.Act) : Rehearsal :=
  { r with pending := r.pending ++ [(operation, acts)] }

/-- An object that somebody asks for by its identity, outside of all requests. -/
def look (objects : Objects) (id : Identity) : Except Fault Json :=
  match objects.get? id with
  | some object => .ok object
  | none => .error (.missing id.name.display)

/-- What an act changes has to be there; anything can be written or deleted. -/
def checkAct (r : Rehearsal) : Store.Act → Except Fault Unit
  | .editStorage id _ => (look r.store.storages id).map fun _ => ()
  | .editSet id _ => (look r.store.sets id).map fun _ => ()
  | _ => .ok ()

def act (r : Rehearsal) (a : Store.Act) : Except Fault Rehearsal :=
  (r.checkAct a).map fun _ => { r with store := r.store.after a }

end Rehearsal

end StorageController
