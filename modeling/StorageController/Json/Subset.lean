import StorageController.Json.Basic

namespace StorageController.Json

mutual

/-- Every member that `desired` names has the same value in `live`. Members that only `live` has are
ignored; lists have to agree in length and item by item. -/
def isSubset : (desired live : Json) → Bool
  | .obj fields, live => match live with
    | .obj others => isSubsetFields fields others
    | _ => false
  | .arr items, live => match live with
    | .arr others => isSubsetItems items others
    | _ => false
  | scalar, live => sameScalar scalar live

def isSubsetItems : (desired live : List Json) → Bool
  | [], [] => true
  | d :: ds, l :: ls => isSubset d l && isSubsetItems ds ls
  | _, _ => false

/-- Every member on the left is a subset of the one of its name on the right. -/
def isSubsetFields : (desired live : Fields) → Bool
  | [], _ => true
  | (key, d) :: rest, live =>
    (match live.lookup key with
      | some l => isSubset d l
      | none => false) && isSubsetFields rest live

end

end StorageController.Json
