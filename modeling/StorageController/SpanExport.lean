import StorageController.Fault
import StorageController.Settings
import StorageController.Text.Unicode.Lowercase

namespace StorageController

/-- Where spans are exported to, and as whose. -/
structure SpanExport where
  service : String
  version : String
  endpoint : String
deriving DecidableEq

namespace SpanExport

def defaultService : String := "swift-operator"

def defaultEndpoint : String := "http://localhost:4317"

/-- The environment does not switch the export off. -/
def isWanted (env : Environment) : Bool :=
  Text.lower ((env.lookup "OTEL_TRACES_ENABLED").getD "true") != "false"

/-- The export that an environment asks for. A variable that is there counts even if it is empty. -/
def ofEnvironment (env : Environment) (service : String) : SpanExport where
  service := (env.lookup "OTEL_SERVICE_NAME").getD service
  version := (env.lookup "OTEL_SERVICE_VERSION").getD "unknown"
  endpoint := (env.lookup "OTEL_EXPORTER_OTLP_ENDPOINT").getD defaultEndpoint

inductive Step where
  | provider (service version : String)
  | exporter (endpoint : String)
  | install
  | tracer (name : String)
deriving DecidableEq

structure Outcome where
  steps : List Step := []
  isOn : Bool := false
  warning : Option String := none

/-- The export is set up, given how the exporter fails to be made, if it does. -/
def setUp (env : Environment) (service : String) (failure : Option Fault) : Outcome :=
  if isWanted env then
    let wanted := ofEnvironment env service
    let first := Step.provider wanted.service wanted.version
    match failure with
    | some fault =>
      { steps := [first], warning := some ("Failed to initialize tracing: " ++ fault.text) }
    | none =>
      { steps := [first, .exporter wanted.endpoint, .install, .tracer wanted.service]
        isOn := true }
  else {}

end SpanExport

end StorageController
