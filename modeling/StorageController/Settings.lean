import StorageController.Duration
import StorageController.Fault
import StorageController.Text.Numeral

namespace StorageController

abbrev Environment := List (String × String)

structure Settings (δ : Type) where
  metricsPort : Int
  requestTimeout : δ
  maxWorkers : Int
  minRetryDelay : δ
  maxRetryDelay : δ
  retryBackoff : δ
  conflictRequeueDelay : δ
  driftCheckInterval : δ
  watchNamespace : String

namespace Settings

def default : Settings Float where
  metricsPort := 8080
  requestTimeout := 30.0
  maxWorkers := 4
  minRetryDelay := 1.0
  maxRetryDelay := 60.0
  retryBackoff := 2.0
  conflictRequeueDelay := 0.0
  driftCheckInterval := 300.0
  watchNamespace := ""

/-- A variable read by `read?`; the default if it is absent or empty. -/
def readVariable {α : Type} (env : Environment) (key expected : String) (read? : String → Option α)
    (default : α) : Except Fault α :=
  match env.lookup key with
  | none => .ok default
  | some raw =>
    if raw = "" then .ok default
    else
      match read? raw with
      | some value => .ok value
      | none =>
        .error (.badValue
          (key ++ " must be " ++ expected ++ ", got " ++ String.ofList (Text.quoted raw)))

def wholeVariable (env : Environment) (key : String) (default : Int) : Except Fault Int :=
  readVariable env key "an integer" Text.wholeNumber? default

def numberVariable (env : Environment) (key : String) (default : Float) : Except Fault Float :=
  readVariable env key "a number" Text.number? default

/-- The settings of an environment; the first variable that is malformed is the fault. -/
def ofEnvironment (env : Environment) : Except Fault (Settings Float) := do
  let metricsPort ← wholeVariable env "METRICS_PORT" default.metricsPort
  let requestTimeout ← numberVariable env "K8S_REQUEST_TIMEOUT_SECONDS" default.requestTimeout
  let maxWorkers ← wholeVariable env "MAX_WORKERS" default.maxWorkers
  let minRetryDelay ← numberVariable env "RETRY_MIN_DELAY_SECONDS" default.minRetryDelay
  let maxRetryDelay ← numberVariable env "RETRY_MAX_DELAY_SECONDS" default.maxRetryDelay
  let retryBackoff ← numberVariable env "RETRY_BACKOFF" default.retryBackoff
  let conflictRequeueDelay ←
    numberVariable env "CONFLICT_REQUEUE_DELAY_SECONDS" default.conflictRequeueDelay
  let driftCheckInterval ←
    numberVariable env "DRIFT_CHECK_INTERVAL_SECONDS" default.driftCheckInterval
  let watchNamespace := (env.lookup "WATCH_NAMESPACE").getD default.watchNamespace
  return { metricsPort, requestTimeout, maxWorkers, minRetryDelay, maxRetryDelay, retryBackoff,
           conflictRequeueDelay, driftCheckInterval, watchNamespace }

/-- The delay before a retry: it grows by the backoff with every retry, up to the greatest delay. The
growth is computed before it is capped, so it can overflow. -/
def backoffDelay {δ : Type} [Duration δ] (s : Settings δ) (retry : Int) : Except Fault δ :=
  match Duration.power? s.retryBackoff retry.toNat with
  | some growth => .ok (Duration.least (s.minRetryDelay * growth) s.maxRetryDelay)
  | none => .error .overflow

end Settings

end StorageController
