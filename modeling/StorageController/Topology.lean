import StorageController.Fault

namespace StorageController

/-- The logical parts of the service, each with an image of its own. -/
inductive Domain where
  | account
  | container
  | object
  | proxy
  | memcached
deriving DecidableEq, Repr

def Domain.name : Domain → String
  | .account => "account"
  | .container => "container"
  | .object => "object"
  | .proxy => "proxy"
  | .memcached => "memcached"

def Domain.ofName (name : String) : Except Fault Domain :=
  match [Domain.account, .container, .object, .proxy, .memcached].find? (·.name == name) with
  | some domain => .ok domain
  | none => .error (.noImage name)

structure Topology where
  ns : Json
  name : String
  uid : Json
  generation : Json
  replicas : Int
  imageAccount : String
  imageContainer : String
  imageObject : String
  imageProxy : String
  imageMemcached : String
  storageClass : String
  ringConfigMap : String
deriving DecidableEq

namespace Topology

def image (t : Topology) : Domain → String
  | .account => t.imageAccount
  | .container => t.imageContainer
  | .object => t.imageObject
  | .proxy => t.imageProxy
  | .memcached => t.imageMemcached

def defaultImage : Domain → String
  | .account => "quay.io/tripleozedcentos9/openstack-swift-account:current-tripleo"
  | .container => "quay.io/tripleozedcentos9/openstack-swift-container:current-tripleo"
  | .object => "quay.io/tripleozedcentos9/openstack-swift-object:current-tripleo"
  | .proxy => "quay.io/tripleozedcentos9/openstack-swift-proxy-server:current-tripleo"
  | .memcached => "quay.io/tripleozedcentos9/openstack-memcached:current-tripleo"

def defaultReplicas : Int := 1

def defaultRingConfigMap : String := "swift-ring-config-data"

/-- Name of the config map with the rendered configuration of the services. -/
def configMap (t : Topology) : String :=
  t.name ++ "-config-data"

def wrongKind (key expected : String) (value : Json) : Fault :=
  .invalid ("spec." ++ key ++ " must be " ++ expected ++ ", got " ++ String.ofList value.quote)

/-- A field that is a string, or absent. -/
def stringField (spec : Fields) (key default : String) : Except Fault String :=
  match spec.lookup key with
  | none | some .null => .ok default
  | some (.str s) => .ok s
  | some value => .error (wrongKind key "a string" value)

def replicasField (spec : Fields) : Except Fault Int :=
  match spec.lookup "replicas" with
  | none | some .null => .ok defaultReplicas
  | some (.int n) => .ok n
  | some value => .error (wrongKind "replicas" "an integer" value)

/-- The name in the metadata of a resource; it may not be empty. -/
def nameField (metadata : Json) : Except Fault String := do
  match ← metadata.lookup "name" with
  | some (.str name) => if name = "" then throw (.invalid "metadata.name is required") else return name
  | _ => throw (.invalid "metadata.name is required")

/-- The specification of a resource; an absent one is empty. -/
def specFields (resource : Fields) : Except Fault Fields :=
  match resource.lookup "spec" with
  | none | some .null => .ok []
  | some (.obj spec) => .ok spec
  | some _ => .error (.invalid "spec must be a mapping")

def ofResource : Json → Except Fault Topology
  | .obj resource => do
    let metadata := ((resource.lookup "metadata").getD .null).orElse (.obj [])
    let name ← nameField metadata
    let ns ← metadata.lookupOr "namespace" "default"
    let spec ← specFields resource
    let replicas ← replicasField spec
    let imageAccount ← stringField spec "containerImageAccount" (defaultImage .account)
    let imageContainer ← stringField spec "containerImageContainer" (defaultImage .container)
    let imageObject ← stringField spec "containerImageObject" (defaultImage .object)
    let imageProxy ← stringField spec "containerImageProxy" (defaultImage .proxy)
    let imageMemcached ← stringField spec "containerImageMemcached" (defaultImage .memcached)
    let storageClass ← stringField spec "storageClassName" ""
    let ringConfigMap ← stringField spec "swiftRingConfigMap" defaultRingConfigMap
    let uid ← metadata.lookupOr "uid" ""
    let generation ← metadata.lookupOr "generation" (.int 0)
    return { ns, name, uid, generation, replicas, imageAccount, imageContainer, imageObject,
             imageProxy, imageMemcached, storageClass, ringConfigMap }
  | _ => .error (.invalid "SwiftStorage object must be a mapping")

end Topology

end StorageController
