import StorageController.Condition
import StorageController.Pass.Apply
import StorageController.Pass.Measured
import StorageController.Settings
import StorageController.Timestamp

namespace StorageController.Pass

open Cluster Condition Redaction

variable {δ : Type} [VisitingOrder]

def emitNormal (reason message : String) : Pass Unit :=
  emit ⟨false, reason, message⟩

def emitWarning (reason message : String) : Pass Unit :=
  emit ⟨true, reason, message⟩

/-- The metadata of a resource; absent metadata are empty. -/
def metadataIn (resource : Json) : Except Fault Json :=
  resource.lookupOr "metadata" (.obj [])

/-- The conditions after a report at the present time. -/
def report (r : Condition.Report) (conditions : Json) : Pass Json := do
  ofExcept (r.update (Timestamp.text (← clock r.type)) conditions)

/-- The status of the resource is written. A resource that is gone needs none; any other error asks
for another pass, unless an earlier error already does. -/
def writeStatus (resource status : Json) (directive : Directive δ) : Pass (Directive δ) := do
  let metadata ← ofExcept (metadataIn resource)
  let ns ← ofExcept (metadata.lookupD "namespace" "default")
  let name ← ofExcept (metadata.lookupD "name" .null)
  match ← attempt (request (.patchStatus ns name status)) with
  | .ok _ => return directive
  | .error (.notFound _) =>
    logInfo storageKind metadata "SwiftStorage deleted before status update" "status" "NotFound"
    return directive
  | .error fault =>
    if fault.isOperator then do
      countFault storageKind fault
      logFault storageKind metadata "Failed to update SwiftStorage status" fault
        "StatusUpdateFailed"
      match directive with
      | .requeueError _ => return directive
      | _ => return .requeueError fault
    else throw fault

/-- A malformed resource is reported in its status; the next pass comes with the backoff. -/
def reportInvalid (resource conditions : Json) (fault : Fault) : Pass (Directive δ) := do
  let metadata ← ofExcept (metadataIn resource)
  let generation ← ofExcept (metadata.lookupOr "generation" (.int 0))
  let message := redactFault fault
  countFault storageKind fault
  logFault storageKind metadata "SwiftStorage spec is invalid" fault "SpecInvalid"
  emitWarning "ValidateFailed" message
  let conditions ← report (specInvalid true message generation) conditions
  let conditions ← report (ready false message generation "SpecInvalid") conditions
  countReadiness storageKind false
  writeStatus resource
    (.obj [("observedGeneration", generation), ("conditions", conditions)])
    (.requeueError fault)

/-- What an outcome asks of the scheduler, with the events that report it. -/
def directiveFor (s : Settings δ) (resource : Json) (applied : Applied) : Pass (Directive δ) := do
  let metadata ← ofExcept (metadataIn resource)
  let name ← ofExcept (metadata.lookupD "name" "unknown")
  match applied with
  | .created _ =>
    emitNormal "StatefulSetCreated" ("StatefulSet " ++ name.display ++ " created")
    return .done
  | .patched _ _ =>
    emitNormal "StatefulSetPatched" ("StatefulSet " ++ name.display ++ " patched")
    return .done
  | .unchanged _ => return .done
  | .conflicted _ _ => return .requeueAfter s.conflictRequeueDelay
  | .failed fault _ =>
    countFault storageKind fault
    emitWarning "ReconcileFailed" ("Reconciliation failed: " ++ redactFault fault)
    return .requeueError fault

/-- The number of ready replicas of a live object; absent and null count as none. -/
def readyCount (live : Json) : Except Fault Json := do
  let status ← (live.orElse (.obj [])).lookupOr "status" (.obj [])
  status.lookupOr "readyReplicas" (.int 0)

def atLeast (n : Int) (counted : Json) : Except Fault Bool :=
  match counted.worth? with
  | some worth => .ok (decide ((n : Rat) ≤ worth))
  | none => .error (.notNumber counted.shape)

/-- The conditions on applying and on readiness after an outcome, and whether the resource is ready. -/
def reportApplied (t : Topology) (applied : Applied) (counted conditions : Json) :
    Pass (Json × Bool) := do
  match applied with
  | .failed fault _ =>
    let message := redactFault fault
    let conditions ← report (applyFailed true message t.generation) conditions
    let conditions ← report (ready false message t.generation "ApplyFailed") conditions
    return (conditions, false)
  | _ =>
    let conditions ← report (applyFailed false "StatefulSet applied" t.generation) conditions
    let isReady ← ofExcept (atLeast t.replicas counted)
    let message :=
      counted.display ++ "/" ++ (Json.int t.replicas).display ++ " replicas ready"
    let reason : Json := if isReady then .null else "Deploying"
    let conditions ← report (ready isReady message t.generation reason) conditions
    return (conditions, isReady)

def statusAfter (t : Topology) (applied : Applied) (conditions : Json) : Pass Json := do
  let counted ← ofExcept (readyCount (applied.live?.getD .null))
  let (conditions, isReady) ← reportApplied t applied counted conditions
  let conditions ← report (specInvalid false "Spec is valid" t.generation) conditions
  countReadiness storageKind isReady
  return .obj
    [("observedGeneration", t.generation), ("readyCount", counted), ("conditions", conditions)]

def applyAndReport (s : Settings δ) (resource conditions : Json) (t : Topology) :
    Pass (Directive δ) := do
  span "synthesize_stateful_set" storageKind [] fun _ => return ()
  let applied ← span "apply_stateful_set" storageKind [] fun _ => apply t resource
  match ← directiveFor s resource applied with
  | .requeueAfter delay => return .requeueAfter delay
  | directive => writeStatus resource (← statusAfter t applied conditions) directive

def reconcileResource (s : Settings δ) (identity resource : Json) : Pass (Directive δ) := do
  let metadata ← ofExcept (resource.lookupOr "metadata" identity)
  let deleted ← ofExcept (metadata.lookupD "deletionTimestamp" .null)
  if deleted.truthy then
    logInfo storageKind metadata "SwiftStorage is being deleted, skipping" "reconcile" "Deleting"
    return .done
  emitNormal "ReconcileStarted" "Reconciliation started"
  let status ← ofExcept (resource.lookupOr "status" (.obj []))
  let conditions ← ofExcept (status.lookupOr "conditions" (.arr []))
  match Topology.ofResource resource with
  | .ok t => applyAndReport s resource conditions t
  | .error (.invalid message) => reportInvalid resource conditions (.invalid message)
  | .error fault => throw fault

/-- A pass without its span, identifier and counts. -/
def reconcileOnce (s : Settings δ) (ns name : Json) : Pass (Directive δ) := do
  let identity := metadataOf ns name
  match ← attempt (request (.readStorage ns name)) with
  | .ok resource => reconcileResource s identity resource
  | .error (.notFound _) =>
    logInfo storageKind identity "SwiftStorage not found, nothing to do" "reconcile" "NotFound"
    return .done
  | .error fault =>
    if fault.isOperator then do
      countFault storageKind fault
      logFault storageKind identity "Failed to fetch SwiftStorage" fault "FetchFailed"
      return .requeueError fault
    else throw fault

/-- One pass over the storage resource of a namespace and name. -/
def reconcile (s : Settings δ) (ns name : Json) : Pass (Directive δ) :=
  correlated none
    (span "reconcile_swift_storage" storageKind
      [("swiftstorage.name", name), ("swiftstorage.namespace", ns)] fun _ => do
        let directive ← measured storageKind (metadataOf ns name) (reconcileOnce s ns name)
        tag "reconcile.result" directive.result
        return directive)

/-- A pass over a resource is asked for by changing the trigger among its notes. False if the
resource is gone. -/
def requestPass (ns name trigger : Json) : Pass Bool := do
  match ← attempt (request (.annotate ns name (.obj [(triggerKey, trigger)]))) with
  | .ok _ => return true
  | .error (.notFound _) =>
    logInfo storageKind (metadataOf ns name) "SwiftStorage not found, no pass requested" "trigger"
      "NotFound"
    return false
  | .error fault => throw fault

end StorageController.Pass
