import StorageController.Pass.Tracing

namespace StorageController

inductive Work where
  | span (name : String) (kind : Json) (attributes : Fields) (body : List Work)
  | tag (key : String) (value : Json)
  | fail (fault : Fault)
  | guarded (body : List Work)
deriving Inhabited

namespace Work

open Pass

mutual

def run : Work → Pass Unit
  | .span name kind attributes body =>
    Pass.span name kind attributes fun seen => do
      noteSpan (.entered seen)
      runAll body
  | .tag key value => Pass.tag key value
  | .fail fault => throw fault
  | .guarded body => do
    match ← attempt (runAll body) with
    | .ok _ => return ()
    | .error fault => noteSpan (.caught fault.kind fault.text)

/-- Pieces of work one after the other; a fault ends them. -/
def runAll : List Work → Pass Unit
  | [] => return ()
  | work :: rest => do
    run work
    runAll rest

end

end Work

end StorageController
