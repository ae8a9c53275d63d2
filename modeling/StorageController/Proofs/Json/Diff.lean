import StorageController.Json.Diff
import StorageController.Proofs.Json.Merge

namespace StorageController.Json

/-- What the patch carries for a member that is to be `value` where `current` is. -/
def diffMember (current : Option Json) (value : Json) : Option Json :=
  match current, value with
  | some (.obj current), .obj fields =>
    match diffFields (.obj current) fields with
    | [] => none
    | patch => some (.obj patch)
  | some current, value => if isSubset value current then none else some value
  | none, value => some value

theorem diffFields_cons (live : Json) (key : String) (value : Json) (rest : Fields) :
    diffFields live ((key, value) :: rest) =
      match diffMember (live.get? key) value with
      | none => diffFields live rest
      | some patch => (key, patch) :: diffFields live rest := by
  cases value with
  | obj fields =>
    rw [diffFields]
    cases h : live.get? key with
    | none => simp [diffMember]
    | some current =>
      cases current with
      | obj current => cases hd : diffFields (.obj current) fields <;> simp [diffMember, hd]
      | _ => simp [diffMember, isSubset]
  | _ =>
    rw [diffFields] <;> try simp
    cases h : live.get? key with
    | none => simp [diffMember]
    | some current => simp only [diffMember]; split <;> simp

theorem diffFields_eq_filterMap (live : Json) (desired : Fields) :
    diffFields live desired =
      desired.filterMap fun field =>
        (diffMember (live.get? field.1) field.2).map fun patch => (field.1, patch) := by
  induction desired with
  | nil => simp [diffFields]
  | cons field rest ih =>
    obtain ⟨key, value⟩ := field
    rw [diffFields_cons, List.filterMap_cons, ih]
    cases diffMember (live.get? key) value <;> rfl

/-- The patch depends only on how the members compare. -/
theorem diffFields_congr {one other : Json} {desired : Fields}
    (h : ∀ field ∈ desired,
      diffMember (one.get? field.1) field.2 = diffMember (other.get? field.1) field.2) :
    diffFields one desired = diffFields other desired := by
  induction desired with
  | nil => simp [diffFields]
  | cons field rest ih =>
    obtain ⟨first, others⟩ := List.forall_mem_cons.mp h
    rw [diffFields_cons, diffFields_cons, first, ih others]

theorem names_diffFields_sublist (live : Json) (desired : Fields) :
    ((diffFields live desired).map (·.1)).Sublist (desired.map (·.1)) := by
  induction desired with
  | nil => simp [diffFields]
  | cons field rest ih =>
    obtain ⟨key, value⟩ := field
    rw [diffFields_cons]
    cases diffMember (live.get? key) value with
    | none => exact ih.cons _
    | some patch => exact ih.cons_cons _

theorem nodup_diffFields {desired : Fields} (live : Json) (h : (desired.map (·.1)).Nodup) :
    ((diffFields live desired).map (·.1)).Nodup :=
  (names_diffFields_sublist live desired).nodup h

theorem lookup_diffFields {desired : Fields} (live : Json) (key : String)
    (distinct : (desired.map (·.1)).Nodup) :
    (diffFields live desired).lookup key =
      (desired.lookup key).bind (diffMember (live.get? key)) := by
  induction desired with
  | nil => simp [diffFields]
  | cons field rest ih =>
    obtain ⟨name, value⟩ := field
    obtain ⟨absent, distinct⟩ := List.nodup_cons.mp distinct
    have ih := ih distinct
    rw [diffFields_cons, List.lookup_cons]
    by_cases eq : key = name
    · subst eq
      rw [lookup_eq_none_of_not_mem absent] at ih
      cases h : diffMember (live.get? key) value with
      | none => simpa [h] using ih
      | some patch => simp [h]
    · have ne : (key == name) = false := beq_eq_false_iff_ne.mpr eq
      cases h : diffMember (live.get? name) value with
      | none => simpa [ne] using ih
      | some patch => simpa [List.lookup_cons, ne] using ih

theorem mem_diffFields {live : Json} {desired : Fields} {field : String × Json} :
    field ∈ diffFields live desired ↔
      ∃ value, (field.1, value) ∈ desired ∧ diffMember (live.get? field.1) value = some field.2 := by
  rw [diffFields_eq_filterMap, List.mem_filterMap]
  constructor
  · rintro ⟨⟨key, value⟩, mem, h⟩
    obtain ⟨patch, hp, rfl⟩ := Option.map_eq_some_iff.mp h
    exact ⟨value, mem, hp⟩
  · rintro ⟨value, mem, h⟩
    exact ⟨(field.1, value), mem, by simp [h]⟩

theorem diffFields_eq_nil_iff_members (live : Json) (desired : Fields) :
    diffFields live desired = [] ↔
      ∀ field ∈ desired, diffMember (live.get? field.1) field.2 = none := by
  rw [diffFields_eq_filterMap, List.filterMap_eq_nil_iff]
  simp

theorem diffMember_obj_obj (current fields : Fields) :
    diffMember (some (.obj current)) (.obj fields) =
      if diffFields (.obj current) fields = [] then none
      else some (.obj (diffFields (.obj current) fields)) := by
  rw [diffMember]
  split <;> simp_all

theorem diffMember_obj_obj_eq_none_iff (current fields : Fields) :
    diffMember (some (.obj current)) (.obj fields) = none ↔
      diffFields (.obj current) fields = [] := by
  rw [diffMember_obj_obj]
  by_cases h : diffFields (.obj current) fields = [] <;> simp [h]

theorem diffMember_of_not_obj {value : Json} (h : ∀ fields, value ≠ .obj fields) (live : Json) :
    diffMember (some live) value = if value.isSubset live then none else some value := by
  cases value with
  | obj fields => exact absurd rfl (h fields)
  | _ => cases live <;> rfl

theorem diffMember_of_no_object {live : Json} (h : ∀ members, live ≠ .obj members)
    (fields : Fields) : diffMember (some live) (.obj fields) = some (.obj fields) := by
  cases live with
  | obj members => exact absurd rfl (h members)
  | _ => rfl

theorem diffMember_eq_none_iff (current : Option Json) (value : Json) :
    diffMember current value = none ↔ ∃ l, current = some l ∧ value.isSubset l = true := by
  induction value using documentInduction generalizing current with
  | scalar value scalar =>
    cases current with
    | none => simp [diffMember]
    | some current =>
      cases value with
      | obj fields => cases scalar
      | _ => simp [diffMember]
  | arr items => cases current <;> simp [diffMember]
  | obj fields ih =>
    cases current with
    | none => simp [diffMember]
    | some current =>
      cases current with
      | obj current =>
        simp only [Option.some.injEq, exists_eq_left', isSubset_obj_obj]
        rw [diffMember_obj_obj_eq_none_iff, diffFields_eq_nil_iff_members, isSubsetFields_iff]
        constructor
        · intro h field mem
          exact (ih field mem _).mp (h field mem)
        · intro h field mem
          exact (ih field mem _).mpr (h field mem)
      | _ => simp [diffMember, isSubset]

/-- The patch is empty exactly when the live object already holds the desired one. -/
theorem diffFields_eq_nil_iff (live desired : Fields) :
    diffFields (.obj live) desired = [] ↔ isSubset (.obj desired) (.obj live) = true := by
  rw [← diffMember_obj_obj_eq_none_iff, diffMember_eq_none_iff]
  simp

/-- A patch goes into an object, or carries the whole value in place of anything else. -/
theorem diffMember_eq_some {current : Option Json} {value patch : Json}
    (h : diffMember current value = some patch) :
    (∃ live fields, current = some (.obj live) ∧ value = .obj fields ∧
      patch = .obj (diffFields (.obj live) fields)) ∨
    (patch = value ∧ ∀ live fields, current = some (.obj live) → value ≠ .obj fields) := by
  cases value with
  | obj fields =>
    cases current with
    | none => exact Or.inr ⟨by simpa [diffMember] using h.symm, by simp⟩
    | some current =>
      cases current with
      | obj live =>
        rw [diffMember_obj_obj] at h
        split at h
        next => cases h
        next => exact Or.inl ⟨live, fields, rfl, rfl, (Option.some.inj h).symm⟩
      | _ => exact Or.inr ⟨by simpa [diffMember, isSubset] using h.symm, by simp⟩
  | _ =>
    refine Or.inr ⟨?_, by simp⟩
    cases current with
    | none => simpa [diffMember] using h.symm
    | some current =>
      simp only [diffMember] at h
      split at h
      next => cases h
      next => exact (Option.some.inj h).symm

theorem names_of_diffMember {current : Option Json} {fields : Fields} {patch : Json}
    (h : diffMember current (.obj fields) = some patch) :
    ∃ inside, patch = .obj inside ∧ (inside.map (·.1)).Sublist (fields.map (·.1)) := by
  rcases diffMember_eq_some h with ⟨live, desired, _, same, rfl⟩ | ⟨rfl, _⟩
  · cases same
    exact ⟨_, rfl, names_diffFields_sublist _ fields⟩
  · exact ⟨fields, rfl, .refl _⟩

theorem merge_whole_value {current : Option Json} {value : Json} (h : value.wellFormed = true)
    (free : value.nullFreeOutsideLists = true)
    (apart : ∀ live fields, current = some (.obj live) → value ≠ .obj fields) :
    (current.getD .null).merge value = value := by
  cases value with
  | obj fields =>
    apply merge_eq_of_members_nil _ h free
    cases current with
    | none => rfl
    | some current =>
      cases current with
      | obj live => exact absurd rfl (apart live fields rfl)
      | _ => rfl
  | _ => simp [merge]

theorem diffMember_ne_null {current : Option Json} {value patch : Json}
    (free : value.nullFreeOutsideLists = true) (h : diffMember current value = some patch) :
    patch ≠ .null := by
  rcases diffMember_eq_some h with ⟨live, fields, _, _, rfl⟩ | ⟨rfl, _⟩
  · simp
  · intro null
    rw [null] at free
    cases free

/-- What a member becomes when it is patched towards a value. -/
def patchedMember (current : Option Json) (value : Json) : Option Json :=
  match diffMember current value with
  | none => current
  | some patch => some ((current.getD .null).merge patch)

theorem patchedMember_of_eq_none {current : Option Json} {value : Json}
    (h : diffMember current value = none) : patchedMember current value = current := by
  simp [patchedMember, h]

theorem patchedMember_of_eq_some {current : Option Json} {value patch : Json}
    (h : diffMember current value = some patch) :
    patchedMember current value = some ((current.getD .null).merge patch) := by
  simp [patchedMember, h]

/-- Merging the patch touches only the members that the desired document names. -/
theorem lookup_mergeFields_diffFields {desired : Fields} (live : Fields) (key : String)
    (h : wellFormed (.obj desired) = true) (free : nullFreeOutsideLists (.obj desired) = true) :
    (mergeFields live (diffFields (.obj live) desired)).lookup key =
      match desired.lookup key with
      | none => live.lookup key
      | some value => patchedMember (live.lookup key) value := by
  obtain ⟨distinct, each⟩ := (wellFormed_obj desired).mp h
  rw [nullFreeOutsideLists_obj] at free
  rw [lookup_mergeFields key (nodup_diffFields _ distinct), lookup_diffFields _ key distinct]
  cases hv : desired.lookup key with
  | none => rfl
  | some value =>
    have free := free _ (mem_of_lookup hv)
    have hget : (Json.obj live).get? key = live.lookup key := rfl
    rw [Option.bind_some, hget]
    cases hp : diffMember (live.lookup key) value with
    | none => exact (patchedMember_of_eq_none hp).symm
    | some patch =>
      simp only [patchedMember_of_eq_some hp]
      exact if_neg (diffMember_ne_null free hp)

theorem patchedMember_cases {value : Json} (current : Option Json)
    (h : value.wellFormed = true) (free : value.nullFreeOutsideLists = true) :
    (∃ l, current = some l ∧ value.isSubset l = true ∧ patchedMember current value = some l) ∨
    (∃ live fields, current = some (.obj live) ∧ value = .obj fields ∧
      patchedMember current value =
        some (.obj (mergeFields live (diffFields (.obj live) fields)))) ∨
    (patchedMember current value = some value ∧
      ∀ live fields, current = some (.obj live) → value ≠ .obj fields) := by
  cases hp : diffMember current value with
  | none =>
    obtain ⟨l, hl, sub⟩ := (diffMember_eq_none_iff current value).mp hp
    exact Or.inl ⟨l, hl, sub, (patchedMember_of_eq_none hp).trans hl⟩
  | some patch =>
    rw [patchedMember_of_eq_some hp]
    rcases diffMember_eq_some hp with ⟨live, fields, rfl, rfl, rfl⟩ | ⟨rfl, apart⟩
    · exact Or.inr (Or.inl ⟨live, fields, rfl, rfl, by rw [merge_obj]; rfl⟩)
    · exact Or.inr (Or.inr ⟨congrArg some (merge_whole_value h free apart), apart⟩)

theorem isSubset_patchedMember {value : Json} (current : Option Json)
    (h : value.wellFormed = true) (free : value.nullFreeOutsideLists = true) :
    ∃ l, patchedMember current value = some l ∧ value.isSubset l = true := by
  induction value using documentInduction generalizing current with
  | obj fields ih =>
    rcases patchedMember_cases current h free with
      ⟨l, _, sub, eq⟩ | ⟨live, _, _, same, eq⟩ | ⟨eq, _⟩
    · exact ⟨l, eq, sub⟩
    · cases same
      refine ⟨_, eq, ?_⟩
      rw [isSubset_obj_obj, isSubsetFields_iff]
      intro field mem
      obtain ⟨distinct, each⟩ := (wellFormed_obj fields).mp h
      rw [lookup_mergeFields_diffFields live field.1 h free, lookup_of_mem distinct mem]
      exact ih field mem _ (each field mem) ((nullFreeOutsideLists_obj fields).mp free field mem)
    · exact ⟨_, eq, isSubset_refl h⟩
  | scalar value scalar =>
    rcases patchedMember_cases current h free with
      ⟨l, _, sub, eq⟩ | ⟨_, _, _, rfl, _⟩ | ⟨eq, _⟩
    · exact ⟨l, eq, sub⟩
    · cases scalar
    · exact ⟨_, eq, isSubset_refl h⟩
  | arr items =>
    rcases patchedMember_cases current h free with
      ⟨l, _, sub, eq⟩ | ⟨_, _, _, same, _⟩ | ⟨eq, _⟩
    · exact ⟨l, eq, sub⟩
    · cases same
    · exact ⟨_, eq, isSubset_refl h⟩

theorem isSubset_merge_diffFields {live desired : Fields} (h : wellFormed (.obj desired) = true)
    (free : nullFreeOutsideLists (.obj desired) = true) :
    isSubset (.obj desired) ((Json.obj live).merge (.obj (diffFields (.obj live) desired))) =
      true := by
  obtain ⟨distinct, each⟩ := (wellFormed_obj desired).mp h
  rw [merge_obj, isSubset_obj_obj, isSubsetFields_iff]
  intro field mem
  change ∃ l, (mergeFields live _).lookup field.1 = some l ∧ _
  rw [lookup_mergeFields_diffFields live field.1 h free, lookup_of_mem distinct mem]
  exact isSubset_patchedMember _ (each field mem) ((nullFreeOutsideLists_obj desired).mp free field mem)

/-- A member that the desired document does not name keeps its value, at every depth that both
documents reach through objects. -/
theorem path?_merge_diffFields {desired live names current : Fields} {path : List String}
    {key : String} (h : wellFormed (.obj desired) = true)
    (free : nullFreeOutsideLists (.obj desired) = true)
    (hd : (Json.obj desired).path? path = some (.obj names))
    (hl : (Json.obj live).path? path = some (.obj current))
    (absent : names.lookup key = none) :
    ((Json.obj live).merge (.obj (diffFields (.obj live) desired))).path? (path ++ [key]) =
      current.lookup key := by
  rw [merge_obj]
  change (Json.obj (mergeFields live (diffFields (.obj live) desired))).path? _ = _
  induction path generalizing desired live with
  | nil =>
    cases hd
    cases hl
    change ((mergeFields _ _).lookup key).bind some = _
    rw [lookup_mergeFields_diffFields _ key h free, absent, Option.bind_fun_some]
  | cons step path ih =>
    obtain ⟨value, hv, hd⟩ := Option.bind_eq_some_iff.mp hd
    obtain ⟨member, hm, hl⟩ := Option.bind_eq_some_iff.mp hl
    have hv : desired.lookup step = some value := hv
    have hm : live.lookup step = some member := hm
    have wf := ((wellFormed_obj desired).mp h).2 _ (mem_of_lookup hv)
    have nulls := (nullFreeOutsideLists_obj desired).mp free _ (mem_of_lookup hv)
    change ((mergeFields _ _).lookup step).bind (path? (path ++ [key])) = _
    rw [lookup_mergeFields_diffFields _ step h free, hv, hm]
    rcases patchedMember_cases (some member) wf nulls with
      ⟨l, same, _, eq⟩ | ⟨inner, fields, same, rfl, eq⟩ | ⟨_, apart⟩
    · cases same
      simp only [eq, Option.bind_some, path?_append, hl]
      exact Option.bind_fun_some _
    · cases same
      simp only [eq, Option.bind_some]
      exact ih wf nulls hd hl
    · obtain ⟨inner, rfl⟩ := eq_obj_of_path? hl
      obtain ⟨fields, rfl⟩ := eq_obj_of_path? hd
      exact absurd rfl (apart inner fields rfl)

theorem nullFree_diffMember {current : Option Json} {value patch : Json}
    (free : value.nullFree = true) (h : diffMember current value = some patch) :
    patch.nullFree = true := by
  induction value using documentInduction generalizing current patch with
  | obj fields ih =>
    rcases diffMember_eq_some h with ⟨live, _, _, same, rfl⟩ | ⟨rfl, _⟩
    · cases same
      rw [nullFree_obj] at free ⊢
      intro field mem
      obtain ⟨value, there, hp⟩ := mem_diffFields.mp mem
      exact ih _ there (free _ there) hp
    · exact free
  | scalar value scalar =>
    rcases diffMember_eq_some h with ⟨_, _, _, rfl, _⟩ | ⟨rfl, _⟩
    · cases scalar
    · exact free
  | arr items =>
    rcases diffMember_eq_some h with ⟨_, _, _, same, _⟩ | ⟨rfl, _⟩
    · cases same
    · exact free

theorem nullFree_diffFields {live : Json} {desired : Fields}
    (free : nullFree (.obj desired) = true) : nullFree (.obj (diffFields live desired)) = true := by
  rw [nullFree_obj] at free ⊢
  intro field mem
  obtain ⟨value, there, hp⟩ := mem_diffFields.mp mem
  exact nullFree_diffMember (free _ there) hp

theorem wellFormed_diffMember {current : Option Json} {value patch : Json}
    (wf : value.wellFormed = true) (h : diffMember current value = some patch) :
    patch.wellFormed = true := by
  induction value using documentInduction generalizing current patch with
  | obj fields ih =>
    rcases diffMember_eq_some h with ⟨live, _, _, same, rfl⟩ | ⟨rfl, _⟩
    · cases same
      rw [wellFormed_obj] at wf ⊢
      refine ⟨nodup_diffFields _ wf.1, fun field mem => ?_⟩
      obtain ⟨value, there, hp⟩ := mem_diffFields.mp mem
      exact ih _ there (wf.2 _ there) hp
    · exact wf
  | scalar value scalar =>
    rcases diffMember_eq_some h with ⟨_, _, _, rfl, _⟩ | ⟨rfl, _⟩
    · cases scalar
    · exact wf
  | arr items =>
    rcases diffMember_eq_some h with ⟨_, _, _, same, _⟩ | ⟨rfl, _⟩
    · cases same
    · exact wf

theorem wellFormed_diffFields {live : Json} {desired : Fields}
    (wf : wellFormed (.obj desired) = true) :
    wellFormed (.obj (diffFields live desired)) = true := by
  rw [wellFormed_obj] at wf ⊢
  refine ⟨nodup_diffFields _ wf.1, fun field mem => ?_⟩
  obtain ⟨value, there, hp⟩ := mem_diffFields.mp mem
  exact wellFormed_diffMember (wf.2 _ there) hp

end StorageController.Json
