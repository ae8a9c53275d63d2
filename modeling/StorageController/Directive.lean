import StorageController.Fault

namespace StorageController

/-- The outcome of a pass as the scheduler sees it. -/
inductive Directive (δ : Type) where
  | done
  | requeueAfter (delay : δ)
  | requeueError (error : Option Fault)

namespace Directive

variable {δ : Type}

def result : Directive δ → String
  | .done => "success"
  | .requeueAfter _ => "requeue"
  | .requeueError _ => "error"

def action : Directive δ → String
  | .done => "done"
  | .requeueAfter _ => "requeue_after"
  | .requeueError _ => "requeue_error"

end Directive

end StorageController
