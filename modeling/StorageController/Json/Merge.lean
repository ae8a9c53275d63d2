import StorageController.Json.Basic

namespace StorageController.Json

mutual

/-- The document after a merge patch. What is not an object is patched as if it were empty. -/
def merge (target : Json) : (patch : Json) → Json
  | .obj patch => .obj (mergeFields target.members patch)
  | replacement => replacement

def mergeFields (target : Fields) : (patch : Fields) → Fields
  | [] => target
  | (key, value) :: rest =>
    if value = .null then mergeFields (eraseField key target) rest
    else mergeFields (setField key (merge ((target.lookup key).getD .null) value) target) rest

end

end StorageController.Json
