import StorageController.Cluster.Names
import StorageController.StatefulSet.Role

namespace StorageController

open Cluster

def selectorLabels (name : Json) : Fields :=
  [(nameLabel, applicationName), (instanceLabel, name)]

/-- The labels of a StatefulSet and of its pods. -/
def objectLabels (name : Json) : Fields :=
  selectorLabels name ++ [(managedByLabel, .str controllerName)]

namespace Manifest

def claimName : String := "srv"

def userId : Int := 42445

def volumeMounts : Json :=
  .arr
    [.obj [("name", claimName), ("mountPath", "/srv/node/d1")],
     .obj [("name", "config-data"), ("mountPath", "/var/lib/config-data/default"),
       ("readOnly", .bool true)],
     .obj [("name", "ring-data"), ("mountPath", "/var/lib/config-data/rings"),
       ("readOnly", .bool true)],
     .obj [("name", "config-data-merged"), ("mountPath", "/etc/swift")]]

def containerSecurity : Json :=
  .obj
    [("runAsUser", .int userId),
     ("runAsNonRoot", .bool true),
     ("allowPrivilegeEscalation", .bool false),
     ("capabilities", .obj [("drop", .arr ["ALL"])]),
     ("seccompProfile", .obj [("type", "RuntimeDefault")])]

/-- What a pod may do. The lowest free port is that of rsync, which needs no capability for it. -/
def podSecurity : Json :=
  .obj
    [("fsGroup", .int userId),
     ("fsGroupChangePolicy", "OnRootMismatch"),
     ("runAsNonRoot", .bool true),
     ("seccompProfile", .obj [("type", "RuntimeDefault")]),
     ("sysctls", .arr
      [.obj [("name", "net.ipv4.ip_unprivileged_port_start"), ("value", "873")]])]

def portsField (role : Role) : Fields :=
  if role.port = .null then []
  else [("ports", .arr [.obj [("containerPort", role.port), ("name", role.portName)]])]

def mountsField (role : Role) : Fields :=
  if role.mounts then [("volumeMounts", volumeMounts)] else []

def container (role : Role) (t : Topology) : Json :=
  .obj
    ([("name", role.name),
      ("image", .str (t.image role.domain)),
      ("imagePullPolicy", .str "IfNotPresent"),
      ("command", .arr role.command),
      ("securityContext", containerSecurity)] ++ portsField role ++ mountsField role)

def volumes (t : Topology) : Json :=
  .arr
    [.obj [("name", "config-data"), ("configMap", .obj [("name", t.configMap)])],
     .obj [("name", "ring-data"), ("configMap", .obj [("name", t.ringConfigMap)])],
     .obj [("name", "config-data-merged"), ("emptyDir", .obj [])]]

/-- The claims of a pod. Without a storage class the cluster takes its own default. -/
def volumeClaims (t : Topology) : Json :=
  let storageClass : Fields :=
    if t.storageClass = "" then [] else [("storageClassName", .str t.storageClass)]
  .arr
    [.obj
      [("metadata", .obj [("name", claimName)]),
       ("spec", .obj
        ([("accessModes", .arr ["ReadWriteOnce"]),
          ("resources", .obj [("requests", .obj [("storage", "1Gi")])])] ++ storageClass))]]

def podTemplate (t : Topology) : Json :=
  .obj
    [("metadata", .obj [("labels", .obj (objectLabels t.name))]),
     ("spec", .obj
      [("securityContext", podSecurity),
       ("initContainers", .arr (Role.initial.map (container · t))),
       ("containers", .arr (Role.services.map (container · t))),
       ("volumes", volumes t)])]

def setMetadata (t : Topology) : Fields :=
  [("name", .str t.name), ("namespace", t.ns), ("labels", .obj (objectLabels t.name))]

def setSpec (t : Topology) : Fields :=
  [("replicas", .int t.replicas),
   ("serviceName", .str t.name),
   ("selector", .obj [("matchLabels", .obj (selectorLabels t.name))]),
   ("template", podTemplate t),
   ("volumeClaimTemplates", volumeClaims t)]

def withMetadata (t : Topology) (further : Fields) : Json :=
  .obj
    [("apiVersion", appsGroupVersion),
     ("kind", setKind),
     ("metadata", .obj (setMetadata t ++ further)),
     ("spec", .obj (setSpec t))]

end Manifest

def Topology.manifest (t : Topology) : Json :=
  Manifest.withMetadata t []

end StorageController
