import StorageController.Json.Merge
import StorageController.Proofs.Json.Subset

namespace StorageController.Json

@[simp] theorem merge_obj (target : Json) (patch : Fields) :
    target.merge (.obj patch) = .obj (mergeFields target.members patch) := by
  rw [merge]

theorem merge_of_not_obj {patch : Json} (h : ∀ fields, patch ≠ .obj fields) (target : Json) :
    target.merge patch = patch := by
  cases patch with
  | obj fields => exact absurd rfl (h fields)
  | _ =>
    rw [merge]
    simp

theorem merge_again_of_not_obj {patch : Json} (h : ∀ fields, patch ≠ .obj fields)
    (target : Json) : (target.merge patch).merge patch = target.merge patch := by
  rw [merge_of_not_obj h, merge_of_not_obj h]

theorem mergeFields_cons_null (target rest : Fields) (key : String) :
    mergeFields target ((key, .null) :: rest) = mergeFields (eraseField key target) rest := by
  rw [mergeFields]
  exact if_pos rfl

theorem mergeFields_cons (target rest : Fields) (key : String) {value : Json}
    (h : value ≠ .null) :
    mergeFields target ((key, value) :: rest) =
      mergeFields (setField key (merge ((target.lookup key).getD .null) value) target) rest := by
  rw [mergeFields]
  exact if_neg h

theorem lookup_mergeFields_of_not_mem {target patch : Fields} {key : String}
    (h : key ∉ patch.map (·.1)) : (mergeFields target patch).lookup key = target.lookup key := by
  induction patch generalizing target with
  | nil => rw [mergeFields]
  | cons field rest ih =>
    obtain ⟨name, value⟩ := field
    have ne : key ≠ name := fun eq => h (by simp [eq])
    have absent : key ∉ rest.map (·.1) := fun mem => h (List.mem_cons_of_mem _ mem)
    by_cases null : value = .null
    · subst null
      rw [mergeFields_cons_null, ih absent, lookup_eraseField, if_neg ne]
    · rw [mergeFields_cons _ _ _ null, ih absent, lookup_setField, if_neg ne]

theorem lookup_mergeFields_of_mem {target patch : Fields} {key : String} {value : Json}
    (distinct : (patch.map (·.1)).Nodup) (h : (key, value) ∈ patch) :
    (mergeFields target patch).lookup key =
      if value = .null then none else some (merge ((target.lookup key).getD .null) value) := by
  induction patch generalizing target with
  | nil => cases h
  | cons field rest ih =>
    obtain ⟨name, first⟩ := field
    obtain ⟨absent, others⟩ := List.nodup_cons.mp distinct
    rcases List.mem_cons.mp h with eq | mem
    · obtain ⟨rfl, rfl⟩ := Prod.mk.inj eq
      by_cases null : value = .null
      · rw [if_pos null]
        subst null
        rw [mergeFields_cons_null, lookup_mergeFields_of_not_mem absent, lookup_eraseField,
          if_pos rfl]
      · rw [if_neg null, mergeFields_cons _ _ _ null, lookup_mergeFields_of_not_mem absent,
          lookup_setField, if_pos rfl]
    · have ne : key ≠ name := by
        intro eq
        exact absent (List.mem_map.mpr ⟨(key, value), mem, eq⟩)
      by_cases null : first = .null
      · subst null
        rw [mergeFields_cons_null, ih others mem, lookup_eraseField, if_neg ne]
      · rw [mergeFields_cons _ _ _ null, ih others mem, lookup_setField, if_neg ne]

theorem lookup_mergeFields {target patch : Fields} (key : String)
    (distinct : (patch.map (·.1)).Nodup) :
    (mergeFields target patch).lookup key =
      match patch.lookup key with
      | none => target.lookup key
      | some value =>
        if value = .null then none else some (merge ((target.lookup key).getD .null) value) := by
  cases h : patch.lookup key with
  | none =>
    apply lookup_mergeFields_of_not_mem
    intro mem
    obtain ⟨⟨name, value⟩, there, rfl⟩ := List.mem_map.mp mem
    rw [lookup_of_mem distinct there] at h
    cases h
  | some value => exact lookup_mergeFields_of_mem distinct (mem_of_lookup h)

theorem get?_merge {target : Json} {patch : Fields} (key : String)
    (distinct : (patch.map (·.1)).Nodup) :
    (target.merge (.obj patch)).get? key =
      match patch.lookup key with
      | none => target.get? key
      | some value =>
        if value = .null then none else some (merge ((target.get? key).getD .null) value) := by
  rw [merge_obj]
  change (mergeFields target.members patch).lookup key = _
  rw [lookup_mergeFields key distinct]
  cases target <;> rfl

theorem get?_merge_of_lookup {patch : Fields} {key : String} {value : Json}
    (distinct : (patch.map (·.1)).Nodup) (listed : patch.lookup key = some value)
    (ne : value ≠ .null) (h : ∀ fields, value ≠ .obj fields) (target : Json) :
    (target.merge (.obj patch)).get? key = some value := by
  rw [get?_merge key distinct, listed]
  simp [ne, merge_of_not_obj h]

theorem setField_of_not_mem {fields : Fields} {key : String} (value : Json)
    (h : key ∉ fields.map (·.1)) : setField key value fields = fields ++ [(key, value)] := by
  induction fields with
  | nil => rfl
  | cons field rest ih =>
    have ne : field.1 ≠ key := fun eq => h (by simp [eq])
    have absent : key ∉ rest.map (·.1) := fun mem => h (List.mem_cons_of_mem _ mem)
    rw [setField, if_neg ne, ih absent]
    rfl

/-- New members of a patch are added as they are, if they are so when nothing was there before. -/
theorem mergeFields_append {target patch : Fields}
    (distinct : ((target ++ patch).map (·.1)).Nodup)
    (fresh : ∀ field ∈ patch, field.2 ≠ .null ∧ Json.null.merge field.2 = field.2) :
    mergeFields target patch = target ++ patch := by
  induction patch generalizing target with
  | nil => simp [mergeFields]
  | cons field rest ih =>
    obtain ⟨name, value⟩ := field
    obtain ⟨⟨ne, same⟩, others⟩ := List.forall_mem_cons.mp fresh
    have absent : name ∉ target.map (·.1) := by
      rw [List.map_append, List.nodup_append] at distinct
      intro mem
      exact distinct.2.2 name mem name (by simp) rfl
    rw [mergeFields_cons _ _ _ ne, lookup_eq_none_of_not_mem absent, Option.getD_none, same,
      setField_of_not_mem _ absent, ih (by simpa using distinct) others, List.append_assoc]
    rfl

/-- In place of anything but an object, a document without nulls is put as it is. -/
theorem merge_null_eq {value : Json} (h : value.wellFormed = true)
    (free : value.nullFreeOutsideLists = true) : Json.null.merge value = value := by
  induction value using documentInduction with
  | scalar j scalar => cases j <;> simp_all [merge, isScalar]
  | arr items => rw [merge]; simp
  | obj fields ih =>
    obtain ⟨distinct, each⟩ := (wellFormed_obj fields).mp h
    rw [nullFreeOutsideLists_obj] at free
    rw [merge_obj]
    change Json.obj (mergeFields [] fields) = _
    rw [mergeFields_append (by simpa using distinct), List.nil_append]
    intro field mem
    refine ⟨fun null => ?_, ih field mem (each field mem) (free field mem)⟩
    have := free field mem
    rw [null] at this
    cases this

theorem merge_eq_of_members_nil {target value : Json} (empty : target.members = [])
    (h : value.wellFormed = true) (free : value.nullFreeOutsideLists = true) :
    target.merge value = value := by
  cases value with
  | obj fields =>
    have same := merge_null_eq h free
    rw [merge_obj] at same ⊢
    rw [empty]
    exact same
  | _ => simp [merge]

theorem setField_of_lookup {fields : Fields} {key : String} {value : Json}
    (h : fields.lookup key = some value) : setField key value fields = fields := by
  induction fields with
  | nil => cases h
  | cons field rest ih => grind [setField]

theorem eraseField_of_lookup {fields : Fields} {key : String} (h : fields.lookup key = none) :
    eraseField key fields = fields := by
  rw [List.lookup_eq_none_iff] at h
  refine List.filter_eq_self.mpr fun field mem => ?_
  have ne : key ≠ field.1 := by simpa using h field mem
  simpa using Ne.symm ne

/-- A patch is void if the members that it deletes are not there and the others are as it leaves
them. -/
theorem mergeFields_void {fields patch : Fields}
    (h : ∀ field ∈ patch, (field.2 = .null → fields.lookup field.1 = none) ∧
      (field.2 ≠ .null → ∃ value, fields.lookup field.1 = some value ∧
        value.merge field.2 = value)) : mergeFields fields patch = fields := by
  induction patch with
  | nil => rw [mergeFields]
  | cons field rest ih =>
    obtain ⟨name, value⟩ := field
    obtain ⟨⟨absent, present⟩, others⟩ := List.forall_mem_cons.mp h
    by_cases null : value = .null
    · subst null
      rw [mergeFields_cons_null, eraseField_of_lookup (absent rfl), ih others]
    · obtain ⟨current, there, same⟩ := present null
      rw [mergeFields_cons _ _ _ null, there, Option.getD_some, same, setField_of_lookup there,
        ih others]

theorem mergeFields_self {fields patch : Fields}
    (h : ∀ field ∈ patch, fields.lookup field.1 = some field.2 ∧ field.2 ≠ .null ∧
      field.2.merge field.2 = field.2) : mergeFields fields patch = fields := by
  refine mergeFields_void fun field mem => ?_
  obtain ⟨there, ne, same⟩ := h field mem
  exact ⟨fun null => absurd null ne, fun _ => ⟨field.2, there, same⟩⟩

theorem mergeFields_again {target patch : Fields} (distinct : (patch.map (·.1)).Nodup)
    (each : ∀ field ∈ patch, ∀ value : Json,
      (value.merge field.2).merge field.2 = value.merge field.2) :
    mergeFields (mergeFields target patch) patch = mergeFields target patch := by
  refine mergeFields_void fun field mem => ?_
  have there : (mergeFields target patch).lookup field.1 =
      if field.2 = .null then none else some (((target.lookup field.1).getD .null).merge field.2) :=
    lookup_mergeFields_of_mem distinct mem
  constructor
  · intro null
    rw [there, if_pos null]
  · intro ne
    exact ⟨_, there.trans (if_neg ne), each field mem _⟩

theorem merge_again {target patch : Json} (h : patch.wellFormed = true) :
    (target.merge patch).merge patch = target.merge patch := by
  induction patch using documentInduction generalizing target with
  | scalar j scalar =>
    refine merge_again_of_not_obj ?_ target
    rintro fields rfl
    cases scalar
  | arr items => exact merge_again_of_not_obj (by simp) target
  | obj fields ih =>
    obtain ⟨distinct, each⟩ := (wellFormed_obj fields).mp h
    rw [merge_obj, merge_obj]
    exact congrArg Json.obj
      (mergeFields_again distinct fun field mem value => ih field mem (each field mem))

theorem get?_merge_of_absent {target : Json} {patch : Fields} {key : String}
    (h : patch.lookup key = none) : (target.merge (.obj patch)).get? key = target.get? key := by
  have absent : key ∉ patch.map (·.1) := by
    intro mem
    obtain ⟨field, there, rfl⟩ := List.mem_map.mp mem
    rw [List.lookup_eq_none_iff] at h
    simpa using h field there
  rw [merge_obj]
  change (mergeFields target.members patch).lookup key = _
  rw [lookup_mergeFields_of_not_mem absent]
  cases target <;> rfl

/-- A document without nulls is left as it is by itself as a patch. -/
theorem merge_self {j : Json} (h : j.wellFormed = true) (free : j.nullFreeOutsideLists = true) :
    j.merge j = j := by
  induction j using documentInduction with
  | scalar j scalar => cases j <;> simp_all [merge, isScalar]
  | arr items => rw [merge]; simp
  | obj fields ih =>
    obtain ⟨distinct, each⟩ := (wellFormed_obj fields).mp h
    rw [nullFreeOutsideLists_obj] at free
    rw [merge_obj]
    change Json.obj (mergeFields fields fields) = _
    rw [mergeFields_self]
    intro field mem
    refine ⟨lookup_of_mem distinct mem, fun null => ?_, ih field mem (each field mem) (free field mem)⟩
    have := free field mem
    rw [null] at this
    cases this

theorem wellFormed_eraseField {fields : Fields} (key : String)
    (h : wellFormed (.obj fields) = true) : wellFormed (.obj (eraseField key fields)) = true := by
  rw [wellFormed_obj] at h ⊢
  exact ⟨nodup_eraseField key h.1, fun field mem => h.2 field (List.mem_filter.mp mem).1⟩

theorem wellFormed_mergeFields {target patch : Fields}
    (ht : wellFormed (.obj target) = true)
    (each : ∀ field ∈ patch, ∀ t : Json, t.wellFormed = true →
      (t.merge field.2).wellFormed = true) :
    wellFormed (.obj (mergeFields target patch)) = true := by
  induction patch generalizing target with
  | nil =>
    rw [mergeFields]
    exact ht
  | cons field rest ih =>
    obtain ⟨name, value⟩ := field
    obtain ⟨first, others⟩ := List.forall_mem_cons.mp each
    by_cases null : value = .null
    · subst null
      rw [mergeFields_cons_null]
      exact ih (wellFormed_eraseField name ht) others
    · rw [mergeFields_cons _ _ _ null]
      refine ih (wellFormed_setField ht (first _ ?_)) others
      cases h : target.lookup name with
      | none => rfl
      | some current => exact ((wellFormed_obj target).mp ht).2 _ (mem_of_lookup h)

theorem wellFormed_merge {target patch : Json} (ht : target.wellFormed = true)
    (hp : patch.wellFormed = true) : (target.merge patch).wellFormed = true := by
  induction patch using documentInduction generalizing target with
  | scalar j scalar =>
    cases j with
    | arr items => cases scalar
    | obj fields => cases scalar
    | _ => rw [merge] <;> simp [wellFormed]
  | arr items =>
    rw [merge] <;> simp_all
  | obj fields ih =>
    rw [merge_obj]
    have each := ((wellFormed_obj fields).mp hp).2
    refine wellFormed_mergeFields ?_ fun field mem t h => ih field mem h (each field mem)
    cases target with
    | obj members => exact ht
    | _ => rfl

end StorageController.Json
