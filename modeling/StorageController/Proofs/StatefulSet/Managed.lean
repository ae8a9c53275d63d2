import StorageController.StatefulSet.Managed
import StorageController.Proofs.Json.Diff

namespace StorageController

namespace Json

/-- Two live documents agree on what a view names. Where the view has an object, both have one, or
neither has; each member of the view is missing in both, or they agree on it. Where it has a list,
both have lists of one length that agree item by item, or neither has a list as long as that of the
view. Where it has anything else, they have equal values. -/
inductive Agree : (view one other : Json) → Prop
  | objects {fields one other : Fields}
      (missing : ∀ field ∈ fields, one.lookup field.1 = none ↔ other.lookup field.1 = none)
      (inside : ∀ field ∈ fields, ∀ a b, one.lookup field.1 = some a →
        other.lookup field.1 = some b → Agree field.2 a b) :
      Agree (.obj fields) (.obj one) (.obj other)
  | noObjects {fields : Fields} {one other : Json} (first : ∀ members, one ≠ .obj members)
      (second : ∀ members, other ≠ .obj members) : Agree (.obj fields) one other
  | lists {items one other : List Json} (length : one.length = other.length)
      (inside : ∀ (i : Nat) (item a b : Json), items[i]? = some item → one[i]? = some a →
        other[i]? = some b → Agree item a b) :
      Agree (.arr items) (.arr one) (.arr other)
  | noLists {items : List Json} {one other : Json}
      (first : ∀ others, one = .arr others → others.length ≠ items.length)
      (second : ∀ others, other = .arr others → others.length ≠ items.length) :
      Agree (.arr items) one other
  | values {value one other : Json} (scalar : value.isScalar = true)
      (equal : one.same other = true) : Agree value one other

theorem length_of_isSubsetItems {items others : List Json}
    (h : isSubsetItems items others = true) : others.length = items.length := by
  induction items generalizing others with
  | nil =>
    cases others with
    | nil => rfl
    | cons other rest => cases h
  | cons item items ih =>
    cases others with
    | nil => cases h
    | cons other rest =>
      rw [isSubsetItems, Bool.and_eq_true] at h
      rw [List.length_cons, List.length_cons, ih h.2]

theorem isSubset_arr_of_length {items : List Json} {live : Json}
    (h : ∀ others, live = .arr others → others.length ≠ items.length) :
    isSubset (.arr items) live = false := by
  refine Bool.eq_false_iff.mpr fun holds => ?_
  obtain ⟨others, rfl, each⟩ := (isSubset_arr_iff _ _).mp holds
  exact h others rfl (length_of_isSubsetItems each)

theorem isSubsetItems_congr {items one other : List Json} (length : one.length = other.length)
    (each : ∀ (i : Nat) (item a b : Json), items[i]? = some item → one[i]? = some a →
      other[i]? = some b → item.isSubset a = item.isSubset b) :
    isSubsetItems items one = isSubsetItems items other := by
  induction items generalizing one other with
  | nil =>
    cases one with
    | nil =>
      obtain rfl := List.length_eq_zero_iff.mp length.symm
      rfl
    | cons a one =>
      cases other with
      | nil => cases length
      | cons b other => rfl
  | cons item items ih =>
    cases one with
    | nil =>
      obtain rfl := List.length_eq_zero_iff.mp length.symm
      rfl
    | cons a one =>
      cases other with
      | nil => cases length
      | cons b other =>
        have first : item.isSubset a = item.isSubset b := each 0 item a b rfl rfl rfl
        have others := ih (Nat.succ.inj length) fun i => each (i + 1)
        rw [isSubsetItems, isSubsetItems, first, others]

/-- Of two objects that miss the same members, only those count that both have. -/
theorem diffFields_congr_of_lookup {fields one other : Fields}
    (missing : ∀ field ∈ fields, one.lookup field.1 = none ↔ other.lookup field.1 = none)
    (inside : ∀ field ∈ fields, ∀ a b, one.lookup field.1 = some a →
      other.lookup field.1 = some b → diffMember (some a) field.2 = diffMember (some b) field.2) :
    diffFields (.obj one) fields = diffFields (.obj other) fields := by
  refine diffFields_congr fun field mem => ?_
  change diffMember (one.lookup field.1) _ = diffMember (other.lookup field.1) _
  have absent := missing field mem
  cases first : one.lookup field.1 with
  | none => rw [absent.mp first]
  | some a =>
    cases second : other.lookup field.1 with
    | none => cases (absent.mpr second).symm.trans first
    | some b => exact inside field mem a b first second

theorem isSubset_congr_of_diffMember {one other value : Json}
    (h : diffMember (some one) value = diffMember (some other) value) :
    value.isSubset one = value.isSubset other := by
  have held (live : Json) : value.isSubset live = true ↔ diffMember (some live) value = none := by
    rw [diffMember_eq_none_iff]
    simp
  refine Bool.eq_iff_iff.mpr ?_
  rw [held, held, h]

theorem get?_of_no_object {live : Json} (h : ∀ members, live ≠ .obj members) (key : String) :
    live.get? key = none := by
  cases live with
  | obj members => exact absurd rfl (h members)
  | _ => rfl

namespace Agree

theorem diffMember_eq {view one other : Json} (h : Agree view one other) :
    diffMember (some one) view = diffMember (some other) view := by
  induction view using documentInduction generalizing one other with
  | scalar value scalar =>
    cases h with
    | values _ equal =>
      have apart : ∀ fields, value ≠ .obj fields := by
        rintro fields rfl
        cases scalar
      rw [diffMember_of_not_obj apart, diffMember_of_not_obj apart, isSubset_of_isScalar _ scalar,
        isSubset_of_isScalar _ scalar, sameScalar_congr value equal]
    | _ => cases scalar
  | arr items ih =>
    have apart : ∀ fields, Json.arr items ≠ .obj fields := by simp
    suffices same : isSubset (.arr items) one = isSubset (.arr items) other by
      rw [diffMember_of_not_obj apart, diffMember_of_not_obj apart, same]
    cases h with
    | lists length inside =>
      simp only [isSubset]
      refine isSubsetItems_congr length fun i item a b here first second => ?_
      have mem := List.mem_of_getElem? here
      exact isSubset_congr_of_diffMember (ih item mem (inside i item a b here first second))
    | noLists first second => rw [isSubset_arr_of_length first, isSubset_arr_of_length second]
    | values scalar => cases scalar
  | obj fields ih =>
    cases h with
    | @objects _ one other missing inside =>
      have same : diffFields (.obj one) fields = diffFields (.obj other) fields := by
        refine diffFields_congr_of_lookup missing fun field mem a b first second => ?_
        exact ih field mem (inside field mem a b first second)
      rw [diffMember_obj_obj, diffMember_obj_obj, same]
    | noObjects first second =>
      rw [diffMember_of_no_object first, diffMember_of_no_object second]
    | values scalar => cases scalar

theorem diffFields_eq {fields : Fields} {one other : Json} (h : Agree (.obj fields) one other) :
    diffFields one fields = diffFields other fields := by
  cases h with
  | objects missing inside =>
    refine diffFields_congr_of_lookup missing fun field mem a b first second => ?_
    exact (inside field mem a b first second).diffMember_eq
  | noObjects first second =>
    refine diffFields_congr fun field _ => ?_
    rw [get?_of_no_object first, get?_of_no_object second]
  | values scalar => cases scalar

end Agree

end Json

open Json

namespace Managed

theorem isObject_view (manifest : Json) : ∃ fields, view manifest = .obj fields := by
  refine List.foldlRecOn (motive := fun view => ∃ fields, view = Json.obj fields) paths _
    ⟨[], rfl⟩ fun document isObject path mem => ?_
  split
  · have nonempty : path ≠ [] := by
      rintro rfl
      simp [paths] at mem
    obtain ⟨key, keys, rfl⟩ := List.exists_cons_of_ne_nil nonempty
    exact ⟨_, rfl⟩
  · exact isObject

theorem patch?_eq_none (manifest : Json) (live : Fields) :
    patch? manifest (.obj live) = none ↔ isSubset (view manifest) (.obj live) = true := by
  obtain ⟨fields, eq⟩ := isObject_view manifest
  have members : (Json.obj fields).members = fields := rfl
  rw [patch?, eq, ← diffFields_eq_nil_iff, members]
  cases diffFields (.obj live) fields with
  | nil => simp
  | cons field rest => simp

/-- There is nothing to patch exactly when the live object holds what is desired of it. -/
theorem nothing_to_patch_iff_held :
    (∀ desired live : Fields,
      diffFields (.obj live) desired = [] ↔ isSubset (.obj desired) (.obj live) = true) ∧
    ∀ (manifest : Json) (live : Fields),
      patch? manifest (.obj live) = none ↔ isSubset (view manifest) (.obj live) = true :=
  ⟨fun desired live => diffFields_eq_nil_iff live desired, patch?_eq_none⟩

/-- Two live objects that agree on what the managed fields of a manifest name get the same patch. -/
theorem agreeing_patched_alike {manifest one other : Json}
    (h : Agree (view manifest) one other) : patch? manifest one = patch? manifest other := by
  obtain ⟨fields, eq⟩ := isObject_view manifest
  have members : (Json.obj fields).members = fields := rfl
  rw [eq] at h
  rw [patch?, patch?, eq, members, h.diffFields_eq]

/-- Labels of others, defaults inside a container and another spelling of a number make no
difference to the patch of an image. -/
theorem agreeing_patched_alike_defaulted :
    let manifest : Json := .obj
      [("metadata", .obj [("labels", .obj [("app", "swift")])]),
       ("spec", .obj
        [("replicas", .int 3), ("template", .arr [.obj [("image", "swift:2")]]),
         ("serviceName", "storage")])]
    let one : Json := .obj
      [("metadata", .obj [("labels", .obj [("app", "swift"), ("team", "storage")])]),
       ("spec", .obj
        [("replicas", .int 3),
         ("template", .arr [.obj [("image", "swift:1"), ("stdin", .bool false)]])])]
    let other : Json := .obj
      [("spec", .obj
        [("template", .arr [.obj [("image", "swift:1")]]), ("replicas", .float ⟨false, 3, 0⟩)]),
       ("metadata", .obj [("labels", .obj [("app", "swift")]), ("name", "storage")]),
       ("status", .null)]
    Agree (view manifest) one other ∧
      patch? manifest one =
        some [("spec", .obj [("template", .arr [.obj [("image", "swift:2")]])])] ∧
      patch? manifest other = patch? manifest one := by
  intro manifest one other
  have agree : Agree (view manifest) one other := by
    refine .objects (by decide) (List.forall_mem_cons.mpr ⟨?_, List.forall_mem_singleton.mpr ?_⟩)
    · rintro _ _ ⟨⟩ ⟨⟩
      refine .objects (by decide) (List.forall_mem_singleton.mpr ?_)
      rintro _ _ ⟨⟩ ⟨⟩
      refine .objects (by decide) (List.forall_mem_singleton.mpr ?_)
      rintro _ _ ⟨⟩ ⟨⟩
      exact .values rfl (by decide)
    · rintro _ _ ⟨⟩ ⟨⟩
      refine .objects (by decide) (List.forall_mem_cons.mpr ⟨?_, List.forall_mem_singleton.mpr ?_⟩)
      · rintro _ _ ⟨⟩ ⟨⟩
        exact .values rfl (by decide +kernel)
      · rintro _ _ ⟨⟩ ⟨⟩
        refine .lists rfl fun i item a b here first second => ?_
        cases i with
        | zero =>
          cases here
          cases first
          cases second
          refine .objects (by decide) (List.forall_mem_singleton.mpr ?_)
          rintro _ _ ⟨⟩ ⟨⟩
          exact .values rfl (by decide)
        | succ i => cases here
  exact ⟨agree, by decide +kernel, (agreeing_patched_alike agree).symm⟩

end Managed

end StorageController
