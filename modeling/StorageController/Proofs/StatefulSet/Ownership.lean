import StorageController.Proofs.Cluster.Responsive

namespace StorageController

open Json Ownership Cluster

variable {object patch reference : Json} {metadata : Fields}

theorem path?_of_metadataIn (h : Pass.metadataIn object = .ok (.obj metadata)) (key : String) :
    object.path? ["metadata", key] = metadata.lookup key := by
  cases object with
  | obj fields =>
    rw [Pass.metadataIn, Pass.lookupOr_obj, orElse] at h
    cases found : fields.lookup "metadata" with
    | none =>
      rw [found] at h
      cases h
      simp [path?, get?, found]
    | some value =>
      rw [found] at h
      split at h
      next =>
        cases h
        exact path?_metadata key found
      next falsy =>
        cases h
        cases value with
        | obj inside =>
          cases inside with
          | nil => exact path?_metadata key found
          | cons field rest => exact absurd rfl falsy
        | _ => simp [path?, get?, found]
  | _ => cases h

/-- Whoever controls an object is found among its references alone. -/
theorem controllerOf_eq (h : Pass.metadataIn object = .ok (.obj metadata)) :
    controllerOf object =
      (((object.path? ["metadata", "ownerReferences"]).getD .null).orElse (.arr [])).items >>=
        findController := by
  rw [controllerOf, path?_of_metadataIn h]
  replace h : object.lookupOr "metadata" (.obj []) = .ok (.obj metadata) := h
  rw [h]
  rfl

theorem controllerOf_congr {other : Json} {inside : Fields}
    (h : Pass.metadataIn object = .ok (.obj metadata))
    (h' : Pass.metadataIn other = .ok (.obj inside))
    (same : object.path? ["metadata", "ownerReferences"] =
      other.path? ["metadata", "ownerReferences"]) : controllerOf object = controllerOf other := by
  rw [controllerOf_eq h, controllerOf_eq h', same]

theorem HasMetadata.metadataIn (h : HasMetadata object) :
    ∃ metadata, Pass.metadataIn object = .ok (.obj metadata) := by
  obtain ⟨metadata, hm⟩ := h
  obtain ⟨fields, rfl, mem⟩ := eq_obj_of_get? hm
  exact ⟨metadata, metadataIn_obj mem⟩

theorem isController_obj (fields : Fields) :
    isController (.obj fields) = .ok
      (((fields.lookup "kind").getD .null).same storageKind &&
        ((fields.lookup "controller").getD .null).truthy &&
        groupOf ((fields.lookup "apiVersion").getD "") == apiGroup) := by
  simp only [isController, Pass.lookupD_obj]
  cases kind : ((fields.lookup "kind").getD .null).same storageKind <;>
    cases controls : ((fields.lookup "controller").getD .null).truthy <;>
    simp [bind, Except.bind, pure, Except.pure, kind, controls]

def Plain (reference : Json) : Prop :=
  ∃ fields, reference = .obj fields ∧ ((fields.lookup "controller").getD .null).truthy = false

theorem Plain.isController (h : Plain reference) : isController reference = .ok false := by
  obtain ⟨fields, rfl, plain⟩ := h
  simp [isController_obj, plain]

theorem findController_append {front back : List Json}
    (others : ∀ other ∈ front, isController other = .ok false)
    (controls : isController reference = .ok true) :
    findController (front ++ reference :: back) = .ok (some reference) := by
  induction front with
  | nil => simp [findController, controls, bind, Except.bind, pure, Except.pure]
  | cons first rest ih =>
    obtain ⟨plain, others⟩ := List.forall_mem_cons.mp others
    rw [List.cons_append, findController, plain]
    exact ih others

theorem findController_singleton {controls : Bool} (h : isController reference = .ok controls) :
    findController [reference] = .ok (if controls then some reference else none) := by
  rw [findController, h]
  cases controls <;> rfl

/-- A storage resource by its group and kind; the server may leave out either. -/
structure OfGroup (owner : Json) : Prop where
  apiVersion : ∀ version, owner.get? "apiVersion" = some version → groupOf version = apiGroup
  kind : ∀ kind, owner.get? "kind" = some kind → kind = storageKind

theorem groupOf_version (version : String) : groupOf (.str (apiGroup ++ "/" ++ version)) = apiGroup := by
  simp [groupOf, display, apiGroup]

/-- What the reference to an owner says, if the owner can be referred to at all. -/
theorem ownerReference_eq {owner : Json} (h : ownerReference owner = .ok reference) :
    reference = .obj
      [("apiVersion", (owner.get? "apiVersion").getD apiGroupVersion),
       ("kind", (owner.get? "kind").getD storageKind),
       ("name", (owner.path? ["metadata", "name"]).getD .null),
       ("uid", (owner.path? ["metadata", "uid"]).getD .null),
       ("controller", .bool true), ("blockOwnerDeletion", .bool true)] := by
  cases owner with
  | obj fields =>
    cases found : Pass.metadataIn (.obj fields) with
    | error fault =>
      replace found : (Json.obj fields).lookupOr "metadata" (.obj []) = .error fault := found
      rw [ownerReference, found] at h
      cases h
    | ok metadata =>
      have looked : (Json.obj fields).lookupOr "metadata" (.obj []) = .ok metadata := found
      rw [ownerReference, looked] at h
      cases metadata with
      | obj inside =>
        rw [path?_of_metadataIn found, path?_of_metadataIn found]
        exact (Except.ok.inj h).symm
      | _ => cases h
  | _ => cases h

theorem isController_ownerReference {owner : Json} (group : OfGroup owner)
    (h : ownerReference owner = .ok reference) : isController reference = .ok true := by
  have version : groupOf ((owner.get? "apiVersion").getD apiGroupVersion) = apiGroup := by
    cases given : owner.get? "apiVersion" with
    | none => exact groupOf_version "v1beta1"
    | some version => exact group.apiVersion version given
  have kind : ((owner.get? "kind").getD storageKind).same storageKind = true := by
    cases given : owner.get? "kind" with
    | none => rfl
    | some kind =>
      rw [group.kind kind given]
      rfl
  rw [ownerReference_eq h, isController_obj]
  change Except.ok (Json.same _ _ && true && _) = _
  simp [List.lookup_cons, version, kind]

/-- A patch that says nothing about the metadata but what the labels and the version are to be. -/
def Modest (patch : Json) : Prop :=
  ∃ fields, patch = .obj fields ∧ (fields.map (·.1)).Nodup ∧
    ∀ metadata, fields.lookup "metadata" = some metadata →
      ∃ inside, metadata = .obj inside ∧ inside.map (·.1) ⊆ ["labels", "resourceVersion"]

theorem Modest.path?_merge {key : String} (h : Modest patch)
    (other : key ∉ ["labels", "resourceVersion"]) (object : Json) :
    (object.merge patch).path? ["metadata", key] = object.path? ["metadata", key] := by
  obtain ⟨fields, rfl, distinct, modest⟩ := h
  rw [path?, path?, get?_merge _ distinct]
  cases named : fields.lookup "metadata" with
  | none => rfl
  | some metadata =>
    obtain ⟨inside, rfl, few⟩ := modest metadata named
    have absent : inside.lookup key = none :=
      lookup_eq_none_of_not_mem fun mem => other (few mem)
    simp only [reduceCtorEq, if_false, Option.bind_some, path?, get?_merge_of_absent absent]
    cases object.get? "metadata" <;> rfl

/-- Whatever object the patch of the managed fields was made for, it is modest. -/
theorem modest_guarded (t : Topology) (live version : Json) :
    Modest (Managed.guarded version (t.patchFields live)) := by
  have distinct := distinct_patchFields t live
  have desired : t.managedFields.lookup "metadata" =
      some (.obj [("labels", .obj (objectLabels t.name))]) := rfl
  have labels : ∀ metadata, (t.patchFields live).lookup "metadata" = some metadata →
      ∃ inside, metadata = .obj inside ∧ (inside.map (·.1)).Sublist ["labels"] := by
    intro metadata named
    rw [Topology.patchFields, lookup_diffFields _ _
      ((wellFormed_obj _).mp (managedFields_wellFormed t)).1, desired] at named
    exact names_of_diffMember named
  by_cases truthy : version.truthy = true
  · refine ⟨_, guarded_eq _ truthy, nodup_setField distinct, ?_⟩
    intro metadata named
    rw [lookup_setField, if_pos rfl] at named
    cases named
    -- The labels, if the patch names them, are joined by the version.
    have others : ∃ inside, ((t.patchFields live).lookup "metadata").getD (.obj []) = .obj inside ∧
        (inside.map (·.1)).Sublist ["labels"] := by
      cases found : (t.patchFields live).lookup "metadata" with
      | none => exact ⟨[], rfl, by simp⟩
      | some metadata => exact labels metadata found
    obtain ⟨inside, eq, few⟩ := others
    refine ⟨_, rfl, ?_⟩
    intro key mem
    rw [eq, mem_names_setField] at mem
    rcases mem with rfl | mem
    · simp
    · simpa using Or.inl (few.subset mem)
  · refine ⟨_, if_neg truthy, distinct, ?_⟩
    intro metadata named
    obtain ⟨inside, rfl, few⟩ := labels metadata named
    exact ⟨inside, rfl, fun key mem => by simpa using Or.inl (few.subset mem)⟩

end StorageController
