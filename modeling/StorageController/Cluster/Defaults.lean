import StorageController.Json.Basic

namespace StorageController.Cluster

open Json

def fill (key : String) (value : Json) (fields : Fields) : Fields :=
  match fields.lookup key with
  | some _ => fields
  | none => fields ++ [(key, value)]

/-- An object with a change of its members; any other document as it is. -/
def inside (change : Fields → Fields) : Json → Json
  | .obj fields => .obj (change fields)
  | j => j

/-- A list with a change of each item; any other document as it is. -/
def each (change : Json → Json) : Json → Json
  | .arr items => .arr (items.map change)
  | j => j

/-- The members with a change of one of them, if it is there. -/
def within (key : String) (change : Json → Json) (fields : Fields) : Fields :=
  fields.map fun (k, v) => (k, if k = key then change v else v)

def fillContainer (fields : Fields) : Fields :=
  fill "terminationMessagePath" "/dev/termination-log"
    (within "ports" (each (inside (fill "protocol" "TCP"))) fields)

def fillVolume (fields : Fields) : Fields :=
  within "configMap" (inside (fill "defaultMode" (.int 420))) fields

def fillPod (fields : Fields) : Fields :=
  fill "restartPolicy" "Always"
    (within "initContainers" (each (inside fillContainer))
      (within "containers" (each (inside fillContainer))
        (within "volumes" (each (inside fillVolume)) fields)))

def fillSpec (fields : Fields) : Fields :=
  fill "revisionHistoryLimit" (.int 10)
    (fill "podManagementPolicy" "OrderedReady"
      (within "template" (inside (within "spec" (inside fillPod))) fields))

def fillSet : Json → Json :=
  inside (within "spec" (inside fillSpec))

end StorageController.Cluster
