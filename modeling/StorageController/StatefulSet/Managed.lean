import StorageController.Json.Diff
import StorageController.Json.Path

namespace StorageController.Managed

def paths : List (List String) :=
  [["metadata", "labels"], ["spec", "replicas"], ["spec", "template"]]

/-- The fields that the server refuses to change after creation. -/
def immutablePaths : List (List String) :=
  [["spec", "selector"], ["spec", "serviceName"], ["spec", "volumeClaimTemplates"]]

/-- The managed fields of a manifest and nothing else. -/
def view (manifest : Json) : Json :=
  paths.foldl
    (fun view path =>
      match manifest.path? path with
      | some value => view.setPath path value
      | none => view)
    (.obj [])

/-- The merge patch that brings the managed fields in sync; none if they are. -/
def patch? (manifest live : Json) : Option Fields :=
  match live.diffFields (view manifest).members with
  | [] => none
  | patch => some patch

/-- The patch made conditional on the version that was read, if the object carried one. -/
def guarded (version : Json) (patch : Fields) : Json :=
  if version.truthy then (Json.obj patch).setPath ["metadata", "resourceVersion"] version
  else .obj patch

/-- A field of the manifest whose live value differs. -/
def drifts (manifest live : Json) (path : List String) : Bool :=
  match manifest.path? path with
  | some desired =>
    match live.path? path with
    | some current => !desired.isSubset current
    | none => true
  | none => false

/-- The immutable fields whose live values differ from the manifest, as dotted names. -/
def immutableDrift (manifest live : Json) : List String :=
  (immutablePaths.filter (drifts manifest live)).map (".".intercalate ·)

end StorageController.Managed
