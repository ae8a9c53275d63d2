import StorageController.Client

namespace StorageController.Client

open Cluster

variable {δ : Type}

namespace Call

def argument (call : Call δ) (name : String) : Option Json :=
  call.arguments.lookup name

/-- The arguments of the call are those with the given names, in any order. -/
def takes (call : Call δ) (names : List String) : Bool :=
  (call.arguments.map (·.1)).isPerm names

/-- The namespace and the name of the object that the call is about. -/
def object? (call : Call δ) : Option (Json × Json) := do
  return (← call.argument "namespace", ← call.argument "name")

def storage? (call : Call δ) : Option (Json × Json) := do
  guard (call.argument "group" = some apiGroup)
  guard (call.argument "version" = some apiVersion)
  guard (call.argument "plural" = some storagePlural)
  call.object?

end Call

end StorageController.Client
