import StorageController.Json.Subset

namespace StorageController.Json

/-- The members of the merge patch from `live` to `desired`; none when `live` already holds them. -/
def diffFields (live : Json) : (desired : Fields) → Fields
  | [] => []
  | (key, .obj fields) :: rest =>
    match live.get? key with
    | some (.obj current) =>
      match diffFields (.obj current) fields with
      | [] => diffFields live rest
      | patch => (key, .obj patch) :: diffFields live rest
    | _ => (key, .obj fields) :: diffFields live rest
  | (key, value) :: rest =>
    match live.get? key with
    | some current =>
      if isSubset value current then diffFields live rest
      else (key, value) :: diffFields live rest
    | none => (key, value) :: diffFields live rest

end StorageController.Json
