namespace StorageController

inductive Metric where
  | pass (kind result : String)
  | passDuration (kind : String)
  | applied (outcome : String)
  | drift (kind resource : String)
  | request (api operation result : String)
  | requestDuration (api operation : String)
  | error (kind fault : String)
  | readiness (kind status : String)
deriving DecidableEq

namespace Metric

def name : Metric → String
  | .pass _ _ => "reconcile_total"
  | .passDuration _ => "reconcile_duration_seconds_count"
  | .applied _ => "apply_outcome_total"
  | .drift _ _ => "drift_detected_total"
  | .request _ _ _ => "api_call_total"
  | .requestDuration _ _ => "api_call_duration_seconds_count"
  | .error _ _ => "error_total"
  | .readiness _ _ => "resource_status_total"

/-- The labels of a sample, in order of their names. -/
def labels : Metric → List (String × String)
  | .pass kind result => [("kind", kind), ("result", result)]
  | .passDuration kind => [("kind", kind)]
  | .applied outcome => [("outcome", outcome)]
  | .drift kind resource => [("kind", kind), ("resource_type", resource)]
  | .request api operation result =>
    [("api_type", api), ("operation", operation), ("result", result)]
  | .requestDuration api operation => [("api_type", api), ("operation", operation)]
  | .error kind fault => [("error_type", fault), ("kind", kind)]
  | .readiness kind status => [("kind", kind), ("status", status)]

def sample (m : Metric) : String :=
  m.name ++ "\x7b" ++ ",".intercalate (m.labels.map fun (key, value) => key ++ "=" ++ value) ++
    "\x7d"

end Metric

end StorageController
