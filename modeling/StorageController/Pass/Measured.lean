import StorageController.Directive
import StorageController.Pass.Logging

namespace StorageController.Pass

variable {δ : Type} [Redaction.VisitingOrder]

/-- A fault that escaped a pass is counted and logged. -/
def reportEscaped (kind : String) (metadata : Json) (fault : Fault) : Pass Unit := do
  countFault kind fault
  logFault kind metadata "Reconciliation failed" fault "ReconciliationFailed"
  count (.pass kind "error")

/-- A pass that is counted. A fault goes on after it was reported. -/
def measured (kind : String) (metadata : Json) (pass : Pass (Directive δ)) :
    Pass (Directive δ) := do
  count (.pass kind "started")
  match ← attempt pass with
  | .ok directive =>
    count (.passDuration kind)
    count (.pass kind directive.result)
    return directive
  | .error fault =>
    let reported ← attempt (reportEscaped kind metadata fault)
    count (.passDuration kind)
    ofExcept reported
    throw fault

def countReadiness (kind : String) (ready : Bool) : Pass Unit :=
  count (.readiness kind (if ready then "ready" else "not_ready"))

end StorageController.Pass
