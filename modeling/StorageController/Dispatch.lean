import StorageController.Pass.Reconcile

namespace StorageController

open Cluster

/-- How the handling of an event ends, if no fault escapes. -/
inductive Handled (δ : Type) where
  | finished
  /-- The event is to be handled again after a delay. -/
  | again (message : String) (delay : δ)

structure Registration (δ : Type) where
  cause : String
  groupVersion : String
  kind : String
  id : String
  interval : Option δ := none
  labels : Fields := []
  handler : String

structure Dispatcher (δ : Type) where
  settings : Settings δ
  reconciler : Option (Settings δ) := none
  registered : Bool := false

namespace Dispatcher

variable {δ : Type} [Redaction.VisitingOrder]

def storageHandler : String := "handle_swift_storage"

def setHandler : String := "handle_stateful_set_event"

def storageRegistration (cause : String) : Registration δ where
  cause
  groupVersion := apiGroupVersion
  kind := storageKind
  id := "reconcile-swift-storage-" ++ cause
  handler := storageHandler

/-- All handlers, with the interval between two checks for drift. -/
def registrations (interval : δ) : List (Registration δ) :=
  [storageRegistration "create", storageRegistration "update", storageRegistration "resume",
   { cause := "timer"
     groupVersion := apiGroupVersion
     kind := storageKind
     id := "drift-check-swift-storage"
     interval := some interval
     handler := storageHandler },
   { cause := "event"
     groupVersion := appsGroupVersion
     kind := setKind
     id := "watch-owned-stateful-set"
     labels := [(managedByLabel, controllerName)]
     handler := setHandler }]

/-- The interval between two checks for drift; none or zero stands for the one of the settings. -/
def driftInterval [Duration δ] (d : Dispatcher δ) : Option δ → δ
  | some interval => if Duration.isZero interval then d.settings.driftCheckInterval else interval
  | none => d.settings.driftCheckInterval

def register [Duration δ] (d : Dispatcher δ) (interval : Option δ) :
    Except Fault (List (Registration δ) × Dispatcher δ) :=
  if d.registered then .error (.badState "SwiftStorage handlers are already registered")
  else .ok (registrations (d.driftInterval interval), { d with registered := true })

/-- A reconciler is bound, once; its settings become those of the dispatcher if they are given. -/
def bind (d : Dispatcher δ) (reconciler : Settings δ) (settings : Option (Settings δ)) :
    Except Fault (Dispatcher δ) :=
  if d.reconciler.isSome then .error (.badState "A reconciler is already bound")
  else .ok { d with reconciler := some reconciler, settings := settings.getD d.settings }

def isBound (d : Dispatcher δ) : Bool :=
  d.reconciler.isSome

def notBound (d : Dispatcher δ) : Handled δ :=
  .again "Reconciler is not bound yet" d.settings.minRetryDelay

/-- How a directive is carried out, given how often the event was retried. -/
def carryOut [Duration δ] (d : Dispatcher δ) (directive : Directive δ) (retry : Int) :
    Except Fault (Handled δ) :=
  match directive with
  | .done => .ok .finished
  | .requeueAfter delay => .ok (.again "Requeue requested" delay)
  | .requeueError fault => do
    let message := (fault.map Redaction.redactFault).getD "Reconciliation failed"
    return .again message (← d.settings.backoffDelay retry)

/-- A change of a storage resource, or a check for drift. -/
def handleStorage [Duration δ] (d : Dispatcher δ) (ns name : Json) (retry : Int) :
    Pass (Handled δ) :=
  match d.reconciler with
  | none => return d.notBound
  | some settings => do
    let directive ← Pass.reconcile settings ns name
    Pass.ofExcept (d.carryOut directive retry)

def reportTriggerFailed (metadata ns owner : Json) (fault : Fault) : Pass Unit := do
  let name ← Pass.ofExcept (metadata.lookupD "name" "unknown")
  let uid ← Pass.ofExcept (metadata.lookupD "uid" "unknown")
  Pass.logAbout setKind name ns uid
    ⟨.warning, "Failed to request a pass for the owner: " ++ Redaction.redactFault fault,
      "trigger", "TriggerFailed"⟩
    [("owner", owner)]

/-- A pass is asked for a resource that controls a changed object. If the request fails, the next
check for drift takes its place. -/
def triggerOwner (reference object namespaceGiven : Json) : Pass Unit := do
  let metadata ← Pass.ofExcept (object.lookupOr "metadata" (.obj []))
  let ns ← if namespaceGiven.truthy then pure namespaceGiven
    else Pass.ofExcept (metadata.lookupD "namespace" "default")
  let version ← Pass.ofExcept (metadata.lookupD "resourceVersion" .null)
  let uid ← Pass.ofExcept (metadata.lookupD "uid" "unknown")
  match reference.get? "name" with
  | none => throw (.missing "name")
  | some owner =>
    match ← Pass.attempt (Pass.requestPass ns owner (version.orElse uid)) with
    | .ok _ => return ()
    | .error fault =>
      if fault.isOperator then reportTriggerFailed metadata ns owner fault else throw fault

def handleSet (d : Dispatcher δ) (object namespaceGiven : Json) : Pass (Handled δ) := do
  match ← Pass.ofExcept (Ownership.controllerOf object) with
  | none => return .finished
  | some reference =>
    if d.isBound then do
      triggerOwner reference object namespaceGiven
      return .finished
    else return d.notBound

end Dispatcher

end StorageController
