import StorageController.Startup

namespace StorageController

def variableNames : List String :=
  ["METRICS_PORT", "K8S_REQUEST_TIMEOUT_SECONDS", "MAX_WORKERS", "RETRY_MIN_DELAY_SECONDS",
   "RETRY_MAX_DELAY_SECONDS", "RETRY_BACKOFF", "CONFLICT_REQUEUE_DELAY_SECONDS",
   "DRIFT_CHECK_INTERVAL_SECONDS", "WATCH_NAMESPACE"]

def environment : IO Environment :=
  variableNames.filterMapM fun key => do
    return (← IO.getEnv key).map fun value => (key, value)

def Scope.describe : Scope → String
  | .cluster => "watching all namespaces"
  | .oneNamespace name => "watching namespace " ++ name

/-- Reports what the operator watches, or why it cannot start; the result is the exit code. -/
def reportScope : IO UInt32 := do
  match Scope.ofEnvironment (← environment) with
  | .ok scope =>
    IO.println scope.describe
    return 0
  | .error fault =>
    IO.eprintln fault.text
    return 1

end StorageController

def main : IO UInt32 :=
  StorageController.reportScope
