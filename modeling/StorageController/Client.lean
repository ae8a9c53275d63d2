import StorageController.Cluster.Api
import StorageController.Cluster.Names
import StorageController.Metric
import StorageController.Redaction.Message
import StorageController.Text.Numeral
import StorageController.Throttle

namespace StorageController.Client

open Cluster

variable {δ : Type} [Redaction.VisitingOrder]

/-- A failure of a call, as the library that makes it reports it. -/
inductive Failure where
  | status (code reason : Json)
  | connection (message : String)
  | other (fault : Fault)

def ofStatus (code reason : Json) : Fault :=
  let words := code.display ++ " " ++ (reason.orElse "").display
  let message := String.ofList (Text.trim words.toList)
  if code.same (.int 404) then .notFound message
  else if code.same (.int 409) then .conflict message
  else .transport message code

def Failure.fault : Failure → Fault
  | .status code reason => ofStatus code reason
  | .connection message => .transport (Redaction.redact message) .null
  | .other fault => fault

/-- The failure is one that a call is counted as failed for. -/
def Failure.isCounted : Failure → Bool
  | .other _ => false
  | _ => true

structure Call (δ : Type) where
  api : String
  function : String
  arguments : Fields
  timeout : δ

def mergePatchType : String := "application/merge-patch+json"

def storageAddress (ns name : Json) : Fields :=
  [("group", apiGroup), ("version", apiVersion), ("namespace", ns), ("plural", storagePlural),
   ("name", name)]

def patchArguments (body : Json) : Fields :=
  [("body", body), ("field_manager", controllerName), ("_content_type", mergePatchType)]

def callFor (timeout : δ) : Request → Call δ
  | .readStorage ns name =>
    ⟨"custom", "get_namespaced_custom_object", storageAddress ns name, timeout⟩
  | .patchStatus ns name status =>
    ⟨"custom", "patch_namespaced_custom_object_status",
      storageAddress ns name ++ patchArguments (.obj [("status", status)]), timeout⟩
  | .annotate ns name notes =>
    ⟨"custom", "patch_namespaced_custom_object",
      storageAddress ns name ++
        patchArguments (.obj [("metadata", .obj [("annotations", notes)])]), timeout⟩
  | .readSet ns name =>
    ⟨"apps", "read_namespaced_stateful_set", [("name", name), ("namespace", ns)], timeout⟩
  | .createSet ns body =>
    ⟨"apps", "create_namespaced_stateful_set",
      [("namespace", ns), ("body", body), ("field_manager", controllerName)], timeout⟩
  | .patchSet ns name patch =>
    ⟨"apps", "patch_namespaced_stateful_set",
      [("name", name), ("namespace", ns)] ++ patchArguments patch, timeout⟩

/-- The answer to a request is a typed object, which has to be turned into a document. -/
def isTyped : Request → Bool
  | .readSet _ _ | .createSet _ _ | .patchSet _ _ _ => true
  | _ => false

structure State (δ : Type) where
  timeout : δ
  throttle : Throttle δ

structure Exchange (δ : Type) where
  reply : Reply
  call : Option (Call δ)
  converted : Bool
  metrics : List Metric
  wait : Option δ

def defaultRate : Float := 10.0

def rateOf (spelled : String) : Except Fault Float :=
  match Text.number? spelled with
  | some rate => .ok rate
  | none =>
    .error (.badValue
      ("could not convert string to float: " ++ String.ofList (Text.quoted spelled)))

def apiName : String := "k8s"

def metricsFor (operation : String) (result : Except Failure Json) : List Metric :=
  let ended : List Metric :=
    match result with
    | .ok _ => [.request apiName operation "success"]
    | .error failure =>
      if failure.isCounted then [.request apiName operation "error"] else []
  ended ++ [.requestDuration apiName operation]

/-- A request, made of a server that responds to calls. If the throttle fails, there is no call. -/
def perform [Duration δ] {σ : Type} (rate : δ) (s : State δ) (request : Request)
    (respond : Call δ → σ → Except Failure Json × σ) (server : σ) (longest : Option δ := none) :
    Exchange δ × State δ × σ :=
  match s.throttle.start rate longest with
  | .error fault =>
    (⟨.error fault, none, false, [.requestDuration apiName request.operation], none⟩, s, server)
  | .ok (wait, throttle) =>
    let call := callFor s.timeout request
    let (response, server) := respond call server
    let converted := isTyped request && response.isOk
    (⟨response.mapError Failure.fault, some call, converted,
      metricsFor request.operation response, wait⟩, { s with throttle }, server)

def exchange [Duration δ] (rate : δ) (s : State δ) (request : Request)
    (response : Except Failure Json) : Exchange δ × State δ :=
  let (exchanged, after, _) := perform rate s request (fun _ server => (response, server)) ()
  (exchanged, after)

inductive Loading where
  | inCluster
  | kubeConfig
deriving DecidableEq

def Loading.name : Loading → String
  | .inCluster => "load_incluster_config"
  | .kubeConfig => "load_kube_config"

/-- Credentials are looked for in the cluster first, then in the configuration of the user. -/
def loadCredentials (inCluster userConfig : Bool) : List Loading × Except Fault Unit :=
  if inCluster then ([.inCluster], .ok ())
  else ([.inCluster, .kubeConfig], if userConfig then .ok () else .error .noCredentials)

end StorageController.Client
