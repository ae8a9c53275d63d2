import StorageController.Proofs.StatefulSet.Managed
import StorageController.Proofs.StatefulSet.Manifest

namespace StorageController

open Json

def Topology.patchFields (t : Topology) (live : Json) : Fields :=
  diffFields live t.managedFields

theorem patch?_eq_some_iff {t : Topology} {live : Json} {fields : Fields} :
    Managed.patch? t.manifest live = some fields ↔
      t.patchFields live ≠ [] ∧ fields = t.patchFields live := by
  rw [Managed.patch?, members_view, Topology.patchFields]
  cases diffFields live t.managedFields with
  | nil => simp
  | cons field rest => simp [eq_comm]

theorem patch?_eq_none_iff {t : Topology} {live : Fields} :
    Managed.patch? t.manifest (.obj live) = none ↔
      isSubset (.obj t.managedFields) (.obj live) = true := by
  rw [Managed.patch?_eq_none, view_manifest]

variable {t : Topology} {live metadata : Fields} {version : Json}

theorem distinct_patchFields (t : Topology) (live : Json) :
    ((t.patchFields live).map (·.1)).Nodup :=
  nodup_diffFields live ((wellFormed_obj _).mp (managedFields_wellFormed t)).1

/-- The patch says at most one thing about the metadata: what the labels are to be. -/
theorem lookup_metadata_patchFields (t : Topology)
    (h : live.lookup "metadata" = some (.obj metadata)) :
    (t.patchFields (.obj live)).lookup "metadata" = none ∨
      ∃ labels, (t.patchFields (.obj live)).lookup "metadata" = some (.obj labels) ∧
        (labels.map (·.1)).Nodup ∧ labels.lookup "resourceVersion" = none := by
  have distinct := ((wellFormed_obj _).mp (managedFields_wellFormed t)).1
  have member : (Json.obj live).get? "metadata" = some (.obj metadata) := h
  have desired : t.managedFields.lookup "metadata" =
      some (.obj [("labels", .obj (objectLabels t.name))]) := rfl
  rw [Topology.patchFields, lookup_diffFields _ _ distinct, desired, Option.bind_some, member,
    diffMember_obj_obj]
  split
  · exact Or.inl rfl
  · refine Or.inr ⟨_, rfl, nodup_diffFields _ (by simp), ?_⟩
    rw [lookup_diffFields _ _ (by simp)]
    rfl

theorem guarded_eq (fields : Fields) (truthy : version.truthy = true) :
    Managed.guarded version fields =
      .obj (setField "metadata" (.obj (setField "resourceVersion" version
        ((fields.lookup "metadata").getD (.obj [])).members)) fields) := by
  rw [Managed.guarded, if_pos truthy]
  rfl

theorem ne_null_of_truthy (truthy : version.truthy = true) : version ≠ .null := by
  rintro rfl
  cases truthy

/-- Outside the metadata the version makes no difference to the merged object. -/
theorem get?_merge_guarded {key : String} (h : key ≠ "metadata") :
    ((Json.obj live).merge (Managed.guarded version (t.patchFields (.obj live)))).get? key =
      ((Json.obj live).merge (.obj (t.patchFields (.obj live)))).get? key := by
  by_cases truthy : version.truthy = true
  · have distinct := distinct_patchFields t (.obj live)
    rw [guarded_eq _ truthy, get?_merge key (nodup_setField distinct), get?_merge key distinct,
      lookup_setField, if_neg h]
  · rw [Managed.guarded, if_neg truthy]

/-- In the metadata it makes a difference to the version only. -/
theorem path?_metadata_merge_guarded (hm : live.lookup "metadata" = some (.obj metadata))
    (key : String) :
    ((Json.obj live).merge (Managed.guarded version (t.patchFields (.obj live)))).path?
        ["metadata", key] =
      if version.truthy = true ∧ key = "resourceVersion" then
        some (((metadata.lookup "resourceVersion").getD .null).merge version)
      else
        ((Json.obj live).merge (.obj (t.patchFields (.obj live)))).path? ["metadata", key] := by
  by_cases truthy : version.truthy = true
  · have distinct := distinct_patchFields t (.obj live)
    have member : (Json.obj live).get? "metadata" = some (.obj metadata) := hm
    simp only [path?, guarded_eq _ truthy, get?_merge _ (nodup_setField distinct),
      get?_merge _ distinct, lookup_setField, member]
    rcases lookup_metadata_patchFields t hm with absent | ⟨labels, found, distinct', fresh⟩
    · have distinct₁ : ((setField "resourceVersion" version []).map (·.1)).Nodup := by
        simp [setField]
      simp only [absent, Option.getD_none, Option.getD_some, members, reduceIte, reduceCtorEq,
        Option.bind_some, get?_merge _ distinct₁, lookup_setField, List.lookup_nil]
      by_cases eq : key = "resourceVersion"
      · subst eq
        simp [truthy, ne_null_of_truthy truthy, get?]
      · simp [eq]
    · have distinct₁ : ((setField "resourceVersion" version labels).map (·.1)).Nodup :=
        nodup_setField distinct'
      simp only [found, Option.getD_some, members, reduceIte, reduceCtorEq, Option.bind_some,
        get?_merge _ distinct₁, get?_merge _ distinct', lookup_setField]
      by_cases eq : key = "resourceVersion"
      · subst eq
        simp [truthy, ne_null_of_truthy truthy, get?]
      · simp [eq]
  · rw [Managed.guarded, if_neg truthy]
    simp [truthy]

theorem metadata_merge_guarded (hm : live.lookup "metadata" = some (.obj metadata)) :
    ∃ merged, ((Json.obj live).merge
      (Managed.guarded version (t.patchFields (.obj live)))).get? "metadata" =
        some (.obj merged) := by
  have distinct := distinct_patchFields t (.obj live)
  have member : (Json.obj live).get? "metadata" = some (.obj metadata) := hm
  by_cases truthy : version.truthy = true
  · rw [guarded_eq _ truthy, get?_merge _ (nodup_setField distinct), lookup_setField, if_pos rfl,
      member]
    exact ⟨_, rfl⟩
  · rw [Managed.guarded, if_neg truthy, get?_merge _ distinct, member]
    rcases lookup_metadata_patchFields t hm with absent | ⟨labels, found, _, _⟩
    · rw [absent]
      exact ⟨metadata, rfl⟩
    · rw [found]
      exact ⟨_, rfl⟩

/-- Inside the managed fields it makes no difference. -/
theorem path?_managed_merge_guarded {place : List String}
    (hm : live.lookup "metadata" = some (.obj metadata)) (h : place ∈ Managed.paths)
    (rest : List String) :
    ((Json.obj live).merge (Managed.guarded version (t.patchFields (.obj live)))).path?
        (place ++ rest) =
      ((Json.obj live).merge (.obj (t.patchFields (.obj live)))).path? (place ++ rest) := by
  rw [path?_append, path?_append]
  congr 1
  simp only [Managed.paths, List.mem_cons, List.not_mem_nil, or_false] at h
  rcases h with rfl | rfl | rfl
  · rw [path?_metadata_merge_guarded hm]
    exact if_neg (by simp)
  · rw [path?, path?, get?_merge_guarded (by decide)]
  · rw [path?, path?, get?_merge_guarded (by decide)]

theorem isSubset_merge_guarded (hm : live.lookup "metadata" = some (.obj metadata)) :
    isSubset (.obj t.managedFields)
      ((Json.obj live).merge (Managed.guarded version (t.patchFields (.obj live)))) = true := by
  have merged : isSubset (.obj t.managedFields)
      ((Json.obj live).merge (.obj (t.patchFields (.obj live)))) = true :=
    isSubset_merge_diffFields (managedFields_wellFormed t) (managedFields_nullFreeOutsideLists t)
  refine isSubset_managedFields fun place h v hv => ?_
  obtain ⟨w, hw, sub⟩ := path?_of_isSubset merged hv
  refine ⟨w, ?_, sub⟩
  rw [← hw]
  simpa using path?_managed_merge_guarded hm h []

/-- What a patch leaves alone. It holds no null and names no other version than that of the live
object; outside the managed fields nothing changes; and inside labels and template, wherever both
the manifest and the live object have an object, members that the manifest does not name stay. -/
structure Framed (t : Topology) (live patch : Json) : Prop where
  nullFree : patch.nullFree = true
  version : ∀ version, patch.path? ["metadata", "resourceVersion"] = some version →
    live.path? ["metadata", "resourceVersion"] = some version
  outside : ∀ key, key ≠ "metadata" → key ≠ "spec" →
    (live.merge patch).get? key = live.get? key
  metadata : ∀ key, key ≠ "labels" →
    (live.merge patch).path? ["metadata", key] = live.path? ["metadata", key]
  spec : ∀ key, key ≠ "replicas" → key ≠ "template" →
    (live.merge patch).path? ["spec", key] = live.path? ["spec", key]
  inside : ∀ place ∈ [["metadata", "labels"], ["spec", "template"]],
    ∀ (path : List String) (names current : Fields) (key : String),
      t.manifest.path? (place ++ path) = some (.obj names) →
      live.path? (place ++ path) = some (.obj current) → names.lookup key = none →
      (live.merge patch).path? (place ++ path ++ [key]) = current.lookup key

theorem nullFree_members {j : Json} (free : j.nullFree = true) :
    ∀ field ∈ j.members, field.2.nullFree = true := by
  cases j with
  | obj fields => exact (nullFree_obj fields).mp free
  | _ => simp [members]

theorem nullFree_guarded (free : version.truthy = true → version.nullFree = true) :
    (Managed.guarded version (t.patchFields (.obj live))).nullFree = true := by
  have fields : nullFree (.obj (t.patchFields (.obj live))) = true :=
    nullFree_diffFields (managedFields_nullFree t)
  by_cases truthy : version.truthy = true
  · have inside : (((t.patchFields (.obj live)).lookup "metadata").getD (.obj [])).nullFree =
        true := by
      cases found : (t.patchFields (.obj live)).lookup "metadata" with
      | none => rfl
      | some labels => exact (nullFree_obj _).mp fields _ (mem_of_lookup found)
    rw [guarded_eq _ truthy, nullFree_obj]
    intro field mem
    rcases mem_setField mem with rfl | mem
    · rw [nullFree_obj]
      intro field mem
      rcases mem_setField mem with rfl | mem
      · exact free truthy
      · exact nullFree_members inside field mem
    · exact (nullFree_obj _).mp fields field mem
  · rw [Managed.guarded, if_neg truthy]
    exact fields

theorem wellFormed_guarded (wf : version.wellFormed = true) :
    (Managed.guarded version (t.patchFields (.obj live))).wellFormed = true := by
  have fields : wellFormed (.obj (t.patchFields (.obj live))) = true :=
    wellFormed_diffFields (managedFields_wellFormed t)
  by_cases truthy : version.truthy = true
  · rw [guarded_eq _ truthy]
    refine wellFormed_setField fields (wellFormed_setField ?_ wf)
    cases found : (t.patchFields (.obj live)).lookup "metadata" with
    | none => rfl
    | some labels =>
      have inside := ((wellFormed_obj _).mp fields).2 _ (mem_of_lookup found)
      cases labels with
      | obj members => exact inside
      | _ => rfl
  · rw [Managed.guarded, if_neg truthy]
    exact fields

theorem lookup_of_truthy {fields : Fields} {key : String}
    (truthy : ((fields.lookup key).getD .null).truthy = true) :
    fields.lookup key = some ((fields.lookup key).getD .null) := by
  cases h : fields.lookup key with
  | none =>
    rw [h] at truthy
    cases truthy
  | some value => rfl

theorem path?_version_guarded {v : Json} (hm : live.lookup "metadata" = some (.obj metadata))
    (h : (Managed.guarded version (t.patchFields (.obj live))).path?
      ["metadata", "resourceVersion"] = some v) : version.truthy = true ∧ v = version := by
  by_cases truthy : version.truthy = true
  · rw [guarded_eq _ truthy] at h
    simp only [path?, get?, lookup_setField, reduceIte, Option.bind_some, Option.some.injEq] at h
    exact ⟨truthy, h.symm⟩
  · rw [Managed.guarded, if_neg truthy] at h
    rcases lookup_metadata_patchFields t hm with absent | ⟨labels, found, _, fresh⟩
    · simp [path?, get?, absent] at h
    · simp [path?, get?, found, fresh] at h

theorem framed_guarded {spec : Fields} (wf : wellFormed (.obj live) = true)
    (hm : live.lookup "metadata" = some (.obj metadata))
    (hs : live.lookup "spec" = some (.obj spec))
    (free : ((metadata.lookup "resourceVersion").getD .null).truthy = true →
      ((metadata.lookup "resourceVersion").getD .null).nullFree = true) :
    Framed t (.obj live) (Managed.guarded ((metadata.lookup "resourceVersion").getD .null)
      (t.patchFields (.obj live))) := by
  have desired := managedFields_wellFormed t
  have nulls := managedFields_nullFreeOutsideLists t
  have inMetadata (key : String) : (Json.obj live).path? ["metadata", key] = metadata.lookup key := by
    simp [path?, get?, hm]
  have inSpec (key : String) : (Json.obj live).path? ["spec", key] = spec.lookup key := by
    simp [path?, get?, hs]
  refine ⟨nullFree_guarded free, ?_, ?_, ?_, ?_, ?_⟩
  · intro v hv
    obtain ⟨truthy, rfl⟩ := path?_version_guarded hm hv
    rw [inMetadata]
    exact lookup_of_truthy truthy
  · intro key metadata spec
    have named : t.managedFields.lookup key = none :=
      lookup_eq_none_of_not_mem (by simp [Topology.managedFields, metadata, spec])
    have whole : (Json.obj t.managedFields).path? [] = some (.obj t.managedFields) := rfl
    have kept := path?_merge_diffFields desired nulls whole (rfl : path? [] (.obj live) = _) named
    rw [get?_merge_guarded metadata]
    exact (Option.bind_fun_some _).symm.trans kept
  · intro key labels
    rw [path?_metadata_merge_guarded hm, inMetadata]
    split
    next own =>
      obtain ⟨truthy, rfl⟩ := own
      have present := lookup_of_truthy truthy
      have member : ((metadata.lookup "resourceVersion").getD .null).wellFormed = true :=
        path?_wellFormed wf ((inMetadata _).trans present)
      rw [merge_self member (nullFreeOutsideLists_of_nullFree (free truthy))]
      exact present.symm
    next =>
      have named : List.lookup key [("labels", Json.obj (objectLabels t.name))] = none :=
        lookup_eq_none_of_not_mem (by simp [labels])
      have found : (Json.obj live).path? ["metadata"] = some (.obj metadata) := by
        simp [path?, get?, hm]
      exact path?_merge_diffFields desired nulls (by rfl) found named
  · intro key replicas template
    have named : List.lookup key
        [("replicas", Json.int t.replicas), ("template", Manifest.podTemplate t)] = none :=
      lookup_eq_none_of_not_mem (by simp [replicas, template])
    have found : (Json.obj live).path? ["spec"] = some (.obj spec) := by simp [path?, get?, hs]
    rw [inSpec, path?, get?_merge_guarded (by decide)]
    exact path?_merge_diffFields desired nulls (by rfl) found named
  · intro place h path names current key hn hc absent
    have managed : place ∈ Managed.paths := by
      simp only [List.mem_cons, List.not_mem_nil, or_false] at h
      rcases h with rfl | rfl <;> simp [Managed.paths]
    have same : (Json.obj t.managedFields).path? (place ++ path) = some (.obj names) := by
      rw [path?_append, ← path?_manifest_managed managed, ← path?_append]
      exact hn
    rw [List.append_assoc, path?_managed_merge_guarded hm managed, ← List.append_assoc]
    exact path?_merge_diffFields desired nulls same hc absent

end StorageController
