import StorageController.Client
import StorageController.Dispatch
import StorageController.SpanExport

namespace StorageController

/-- The order in which the fields are visited as long as the operator runs. -/
instance visitingOrder : Redaction.VisitingOrder :=
  Redaction.TokenFirst.order

inductive Scope where
  | cluster
  | oneNamespace (name : String)
deriving DecidableEq

/-- What an environment asks the operator to watch; all settings have to be well-formed. -/
def Scope.ofEnvironment (env : Environment) : Except Fault Scope := do
  let settings ← Settings.ofEnvironment env
  return if settings.watchNamespace = "" then .cluster else .oneNamespace settings.watchNamespace

/-- How the event loop is set up. -/
structure EventLoop where
  progressStorage : String := "SmartProgressStorage"
  diffbaseStorage : String := "AnnotationsDiffBaseStorage"
  /-- The least level of log lines that are posted as events. -/
  postingLevel : Int := 20
  requestTimeout : Float := 300.0
  maxWorkers : Option Int := none

namespace EventLoop

/-- The event loop with notes among the annotations of objects, apart from their status, and with
everything posted. -/
def annotating (loop : EventLoop) (requestTimeout : Float) : EventLoop :=
  { loop with
    progressStorage := "AnnotationsProgressStorage"
    diffbaseStorage := "AnnotationsDiffBaseStorage"
    postingLevel := 0
    requestTimeout }

/-- The event loop with a limit on its workers; it needs one at least. -/
def limited (loop : EventLoop) (workers : Int) : Except Fault EventLoop :=
  if workers < 1 then .error (.badValue "Can't set thread pool limit lower than 1.")
  else .ok { loop with maxWorkers := some workers }

end EventLoop

namespace Startup

inductive Step where
  /-- Log lines from a level on are written in a format. -/
  | logTo (level : Int) (format : String)
  | spans (step : SpanExport.Step)
  /-- A server for probes and metrics listens on a port. -/
  | listen (port : Int)
  | serve
  | connect (timeout : Float)

structure Operator where
  loop : EventLoop := {}
  dispatcher : Dispatcher Float := { settings := Settings.default }
  serving : Bool := false

def logStep : Step :=
  .logTo 20 "%(message)s"

/-- The configuration after the settings were read, up to binding the reconciler. -/
def stepsFor (env : Environment) (s : Settings Float) : List Step :=
  (SpanExport.setUp env SpanExport.defaultService none).steps.map .spans ++
    [.listen s.metricsPort, .serve, .connect s.requestTimeout]

/-- The operator after binding the reconciler, or the fault of binding a second one. -/
def bindReconciler (o : Operator) (s : Settings Float) : Except Fault Unit × Operator :=
  match o.dispatcher.bind s (some s) with
  | .ok dispatcher => (.ok (), { o with dispatcher })
  | .error fault => (.error fault, o)

/-- The operator is configured: the steps in order, how it ends, and the operator after it. -/
def configure (env : Environment) (o : Operator) : List Step × Except Fault Unit × Operator :=
  match Settings.ofEnvironment env with
  | .error fault => ([logStep], .error fault, o)
  | .ok s =>
    let loop := o.loop.annotating s.requestTimeout
    match loop.limited s.maxWorkers with
    | .error fault => ([logStep], .error fault, { o with loop })
    | .ok loop => (logStep :: stepsFor env s, bindReconciler { o with loop, serving := true } s)

def Operator.isReady (o : Operator) : Bool :=
  o.dispatcher.isBound

end Startup

end StorageController
