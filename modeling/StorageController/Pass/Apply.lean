import StorageController.Pass.Logging
import StorageController.Pass.Tracing
import StorageController.StatefulSet.Managed
import StorageController.StatefulSet.Manifest
import StorageController.StatefulSet.Ownership

namespace StorageController

open Cluster

/-- The outcome of applying a topology. An attempt is the patch that was sent and the object that was
read before it. -/
inductive Applied where
  | created (live : Json)
  | unchanged (live : Json)
  | patched (patch live : Json)
  | conflicted (fault : Fault) (attempt : Option (Json × Json))
  | failed (fault : Fault) (attempt : Option (Json × Json))
deriving DecidableEq

namespace Applied

def outcome : Applied → String
  | .created _ => "created"
  | .unchanged _ => "unchanged"
  | .patched _ _ => "patched"
  | .conflicted _ _ => "retry"
  | .failed _ _ => "error"

def fault? : Applied → Option Fault
  | .conflicted fault _ | .failed fault _ => some fault
  | _ => none

def patch? : Applied → Option Json
  | .patched patch _ => some patch
  | .conflicted _ attempt | .failed _ attempt => attempt.map (·.1)
  | _ => none

/-- The StatefulSet as it was last seen. -/
def live? : Applied → Option Json
  | .created live | .unchanged live | .patched _ live => some live
  | .conflicted _ attempt | .failed _ attempt => attempt.map (·.2)

end Applied

namespace Pass

variable [Redaction.VisitingOrder]

def metadataOf (ns name : Json) : Json :=
  .obj [("name", name), ("namespace", ns)]

def finish (applied : Applied) : Pass Applied := do
  count (.applied applied.outcome)
  tag "apply.outcome" applied.outcome
  return applied

/-- The end of a write that went wrong: a conflict is no failure, a fault that is not one of the
cluster ends the pass. -/
def finishFailed (metadata : Json) (fault : Fault) (conflictMessage message reason : String)
    (attempt : Option (Json × Json)) : Pass Applied :=
  match fault with
  | .conflict _ => do
    logInfo setKind metadata conflictMessage "conflict" "Conflict"
    finish (.conflicted fault attempt)
  | fault =>
    if fault.isOperator then do
      logFault setKind metadata message fault reason
      finish (.failed fault attempt)
    else throw fault

def createSet (t : Topology) (owner : Json) : Pass Applied := do
  let metadata := metadataOf t.ns t.name
  let reference ← ofExcept (Ownership.ownerReference owner)
  let body := Manifest.withMetadata t [("ownerReferences", .arr [reference])]
  match ← attempt (request (.createSet t.ns body)) with
  | .ok created =>
    logInfo setKind metadata "StatefulSet created" "create" "Created"
    finish (.created created)
  | .error fault =>
    finishFailed metadata fault "StatefulSet created concurrently, retrying"
      "Failed to create StatefulSet" "CreateFailed" none

/-- Drift of immutable fields is counted and logged; it cannot be mended. -/
def reportDrift (t : Topology) (live : Json) : Pass Unit :=
  match Managed.immutableDrift t.manifest live with
  | [] => return ()
  | drifted => do
    count (.drift storageKind (setKind ++ "Immutable"))
    log setKind (metadataOf t.ns t.name)
      ⟨.warning, "Immutable StatefulSet fields differ from the desired state and are left as is",
        "drift", "ImmutableDrift"⟩
      [("fields", .arr (drifted.map .str))]

def versionOf (live : Json) : Except Fault Json := do
  let metadata ← live.lookupOr "metadata" (.obj [])
  metadata.lookupD "resourceVersion" .null

/-- The managed fields of a live StatefulSet are patched where they differ. -/
def patchSet (t : Topology) (live : Json) : Pass Applied := do
  reportDrift t live
  match Managed.patch? t.manifest live with
  | none => finish (.unchanged live)
  | some fields =>
    count (.drift storageKind setKind)
    let patch := Managed.guarded (← ofExcept (versionOf live)) fields
    let metadata := metadataOf t.ns t.name
    match ← attempt (request (.patchSet t.ns t.name patch)) with
    | .ok patched =>
      logInfo setKind metadata "StatefulSet patched" "patch" "Patched"
      finish (.patched patch patched)
    | .error fault =>
      finishFailed metadata fault "StatefulSet changed concurrently, retrying"
        "Failed to patch StatefulSet" "PatchFailed" (some (patch, live))

def apply (t : Topology) (owner : Json) : Pass Applied := do
  match ← attempt (request (.readSet t.ns t.name)) with
  | .ok live => patchSet t live
  | .error (.notFound _) => createSet t owner
  | .error fault =>
    if fault.isOperator then do
      logFault setKind (metadataOf t.ns t.name) "Failed to read StatefulSet" fault "ReadFailed"
      finish (.failed fault none)
    else throw fault

end Pass

end StorageController
