import StorageController.Cluster.Names
import StorageController.Fault

namespace StorageController.Ownership

open Cluster

/-- The reference by which a resource controls an object. -/
def ownerReference (owner : Json) : Except Fault Json := do
  let metadata ← owner.lookupOr "metadata" (.obj [])
  let apiVersion ← owner.lookupD "apiVersion" apiGroupVersion
  let kind ← owner.lookupD "kind" storageKind
  let name ← metadata.lookupD "name" .null
  let uid ← metadata.lookupD "uid" .null
  return .obj
    [("apiVersion", apiVersion), ("kind", kind), ("name", name), ("uid", uid),
     ("controller", .bool true), ("blockOwnerDeletion", .bool true)]

def groupOf (apiVersion : Json) : String :=
  String.ofList (apiVersion.display.toList.takeWhile (· ≠ '/'))

/-- A reference to a storage resource that controls the object. -/
def isController (reference : Json) : Except Fault Bool := do
  let kind ← reference.lookupD "kind" .null
  if !kind.same storageKind then return false
  let controls ← reference.lookupD "controller" .null
  if !controls.truthy then return false
  let apiVersion ← reference.lookupD "apiVersion" ""
  return groupOf apiVersion == apiGroup

/-- The first reference to a controlling storage resource. -/
def findController : List Json → Except Fault (Option Json)
  | [] => return none
  | reference :: rest => do
    if ← isController reference then return some reference else findController rest

/-- The reference to the storage resource that controls an object, if there is one. -/
def controllerOf (object : Json) : Except Fault (Option Json) := do
  let metadata ← object.lookupOr "metadata" (.obj [])
  let references ← metadata.lookupOr "ownerReferences" (.arr [])
  findController (← references.items)

end StorageController.Ownership
