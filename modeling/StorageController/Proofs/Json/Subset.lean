import StorageController.Json.Subset
import StorageController.Proofs.Json.WellFormed

namespace StorageController.Json

theorem isSubsetFields_iff (fields others : Fields) :
    isSubsetFields fields others = true ↔
      ∀ field ∈ fields, ∃ l, others.lookup field.1 = some l ∧ field.2.isSubset l = true := by
  induction fields with
  | nil => simp [isSubsetFields]
  | cons field rest ih =>
    obtain ⟨key, value⟩ := field
    rw [isSubsetFields, Bool.and_eq_true, ih, List.forall_mem_cons]
    cases others.lookup key <;> simp

theorem isSubset_obj_iff (fields : Fields) (live : Json) :
    isSubset (.obj fields) live = true ↔
      ∃ others, live = .obj others ∧ isSubsetFields fields others = true := by
  cases live <;> simp [isSubset]

@[simp] theorem isSubset_obj_obj (fields others : Fields) :
    isSubset (.obj fields) (.obj others) = isSubsetFields fields others := by
  rw [isSubset]

theorem isSubset_arr_iff (items : List Json) (live : Json) :
    isSubset (.arr items) live = true ↔
      ∃ others, live = .arr others ∧ isSubsetItems items others = true := by
  cases live <;> simp [isSubset]

theorem isSubset_of_isScalar {j : Json} (live : Json) (h : j.isScalar = true) :
    j.isSubset live = j.sameScalar live := by
  cases j with
  | arr items => cases h
  | obj fields => cases h
  | _ => rw [isSubset] <;> simp

theorem sameScalar_refl {j : Json} (h : j.isScalar = true) : j.sameScalar j = true := by
  cases j with
  | arr items => cases h
  | obj fields => cases h
  | _ => simp [sameScalar, worth?]

theorem sameScalar_of_worth {a : Json} {x : Rat} (ha : a.worth? = some x) (b : Json) :
    a.sameScalar b = true ↔ b.worth? = some x := by
  have symm (y : Rat) : x = y ↔ y = x := eq_comm
  cases a <;> cases b <;> simp_all [sameScalar, worth?]

theorem sameScalar_of_not_worth {a b : Json} (ha : a.worth? = none)
    (h : a.sameScalar b = true) : b = a := by
  cases a <;> cases b <;> simp_all [sameScalar, worth?]

theorem sameScalar_trans {a b c : Json} (hab : a.sameScalar b = true)
    (hbc : b.sameScalar c = true) : a.sameScalar c = true := by
  cases ha : a.worth? with
  | none =>
    have eq := sameScalar_of_not_worth ha hab
    rw [eq] at hbc
    exact hbc
  | some x =>
    have hb := (sameScalar_of_worth ha b).mp hab
    exact (sameScalar_of_worth ha c).mpr ((sameScalar_of_worth hb c).mp hbc)

theorem isScalar_of_sameScalar {a b : Json} (h : a.sameScalar b = true) : b.isScalar = true := by
  cases ha : a.worth? with
  | none =>
    have eq := sameScalar_of_not_worth ha h
    subst eq
    cases b <;> simp_all [sameScalar, worth?, isScalar]
  | some x =>
    have hb := (sameScalar_of_worth ha b).mp h
    cases b <;> simp_all [worth?, isScalar]

theorem sameScalar_symm {a b : Json} (h : a.sameScalar b = true) : b.sameScalar a = true := by
  cases ha : a.worth? with
  | none =>
    have eq := sameScalar_of_not_worth ha h
    subst eq
    exact h
  | some x =>
    have hb := (sameScalar_of_worth ha b).mp h
    exact (sameScalar_of_worth hb a).mpr ha

theorem same_of_isScalar {j : Json} (other : Json) (h : j.isScalar = true) :
    j.same other = j.sameScalar other := by
  cases j with
  | arr items => cases h
  | obj fields => cases h
  | _ => rw [same] <;> simp

theorem sameScalar_of_not_isScalar {other : Json} (j : Json) (h : other.isScalar = false) :
    j.sameScalar other = false := by
  refine Bool.eq_false_iff.mpr fun holds => ?_
  rw [isScalar_of_sameScalar holds] at h
  cases h

/-- No scalar tells equal documents apart. -/
theorem sameScalar_congr {a b : Json} (j : Json) (h : a.same b = true) :
    j.sameScalar a = j.sameScalar b := by
  by_cases scalar : a.isScalar = true
  · rw [same_of_isScalar b scalar] at h
    refine Bool.eq_iff_iff.mpr ⟨fun holds => sameScalar_trans holds h, fun holds => ?_⟩
    exact sameScalar_trans holds (sameScalar_symm h)
  · have compound : b.isScalar = false := by
      cases a <;> cases b <;> simp_all [same, isScalar]
    rw [sameScalar_of_not_isScalar j (Bool.eq_false_iff.mpr scalar),
      sameScalar_of_not_isScalar j compound]

theorem isSubsetItems_refl {items : List Json} (h : ∀ item ∈ items, item.isSubset item = true) :
    isSubsetItems items items = true := by
  induction items with
  | nil => rfl
  | cons item rest ih =>
    obtain ⟨first, others⟩ := List.forall_mem_cons.mp h
    rw [isSubsetItems, first, ih others]
    rfl

theorem isSubset_refl {j : Json} (h : j.wellFormed = true) : j.isSubset j = true := by
  induction j using documentInduction with
  | scalar j scalar => rw [isSubset_of_isScalar j scalar, sameScalar_refl scalar]
  | arr items ih =>
    have each := (wellFormed_arr items).mp h
    exact (isSubset_arr_iff _ _).mpr
      ⟨items, rfl, isSubsetItems_refl fun item mem => ih item mem (each item mem)⟩
  | obj fields ih =>
    obtain ⟨distinct, each⟩ := (wellFormed_obj fields).mp h
    rw [isSubset_obj_obj, isSubsetFields_iff]
    intro field mem
    exact ⟨field.2, lookup_of_mem distinct mem, ih field mem (each field mem)⟩

theorem sameItems_refl {items : List Json} (h : ∀ item ∈ items, item.same item = true) :
    sameItems items items = true := by
  induction items with
  | nil => rfl
  | cons item rest ih =>
    obtain ⟨first, others⟩ := List.forall_mem_cons.mp h
    rw [sameItems, first, ih others]
    rfl

theorem sameFields_of_lookup {fields others : Fields}
    (h : ∀ field ∈ fields, ∃ w, others.lookup field.1 = some w ∧ field.2.same w = true) :
    sameFields fields others = true := by
  induction fields with
  | nil => rfl
  | cons field rest ih =>
    obtain ⟨⟨w, hw, first⟩, remaining⟩ := List.forall_mem_cons.mp h
    rw [sameFields, ih remaining, hw, Bool.and_true]
    exact first

theorem same_refl {j : Json} (h : j.wellFormed = true) : j.same j = true := by
  induction j using documentInduction with
  | scalar j scalar => rw [same_of_isScalar j scalar, sameScalar_refl scalar]
  | arr items ih =>
    have each := (wellFormed_arr items).mp h
    exact sameItems_refl fun item mem => ih item mem (each item mem)
  | obj fields ih =>
    obtain ⟨distinct, each⟩ := (wellFormed_obj fields).mp h
    rw [same, beq_self_eq_true, Bool.true_and]
    refine sameFields_of_lookup ?_
    intro field mem
    exact ⟨field.2, lookup_of_mem distinct mem, ih field mem (each field mem)⟩

theorem isSubsetItems_trans {xs ys zs : List Json}
    (trans : ∀ x ∈ xs, ∀ y z : Json, x.isSubset y = true → y.isSubset z = true →
      x.isSubset z = true)
    (hxy : isSubsetItems xs ys = true) (hyz : isSubsetItems ys zs = true) :
    isSubsetItems xs zs = true := by
  induction xs generalizing ys zs with
  | nil =>
    cases ys with
    | nil => exact hyz
    | cons y ys => simp [isSubsetItems] at hxy
  | cons x xs ih =>
    cases ys with
    | nil => simp [isSubsetItems] at hxy
    | cons y ys =>
      cases zs with
      | nil => simp [isSubsetItems] at hyz
      | cons z zs =>
        simp only [isSubsetItems, Bool.and_eq_true] at hxy hyz ⊢
        obtain ⟨first, others⟩ := List.forall_mem_cons.mp trans
        exact ⟨first y z hxy.1 hyz.1, ih others hxy.2 hyz.2⟩

theorem isSubset_trans {a b c : Json} (hab : a.isSubset b = true) (hbc : b.isSubset c = true) :
    a.isSubset c = true := by
  induction a using documentInduction generalizing b c with
  | scalar a scalar =>
    rw [isSubset_of_isScalar _ scalar] at hab ⊢
    rw [isSubset_of_isScalar _ (isScalar_of_sameScalar hab)] at hbc
    exact sameScalar_trans hab hbc
  | arr xs ih =>
    obtain ⟨ys, rfl, hxy⟩ := (isSubset_arr_iff _ _).mp hab
    obtain ⟨zs, rfl, hyz⟩ := (isSubset_arr_iff _ _).mp hbc
    exact (isSubset_arr_iff _ _).mpr
      ⟨zs, rfl, isSubsetItems_trans (fun x mem y z => ih x mem) hxy hyz⟩
  | obj xs ih =>
    obtain ⟨ys, rfl, hxy⟩ := (isSubset_obj_iff _ _).mp hab
    obtain ⟨zs, rfl, hyz⟩ := (isSubset_obj_iff _ _).mp hbc
    rw [isSubset_obj_obj, isSubsetFields_iff]
    rw [isSubsetFields_iff] at hxy hyz
    intro field mem
    obtain ⟨y, hy, hfy⟩ := hxy field mem
    obtain ⟨z, hz, hyz⟩ := hyz (field.1, y) (mem_of_lookup hy)
    exact ⟨z, hz, ih field mem hfy hyz⟩

theorem get?_of_isSubset {a b v : Json} {key : String} (h : a.isSubset b = true)
    (hv : a.get? key = some v) : ∃ w, b.get? key = some w ∧ v.isSubset w = true := by
  cases a with
  | obj fields =>
    obtain ⟨others, rfl, each⟩ := (isSubset_obj_iff _ _).mp h
    exact (isSubsetFields_iff _ _).mp each (key, v) (mem_of_lookup hv)
  | _ => cases hv

theorem path?_of_isSubset {path : List String} {a b v : Json} (h : a.isSubset b = true)
    (hv : a.path? path = some v) : ∃ w, b.path? path = some w ∧ v.isSubset w = true := by
  induction path generalizing a b with
  | nil =>
    cases hv
    exact ⟨b, rfl, h⟩
  | cons key keys ih =>
    obtain ⟨member, hm, hv⟩ := Option.bind_eq_some_iff.mp hv
    obtain ⟨other, ho, hsub⟩ := get?_of_isSubset h hm
    obtain ⟨w, hw, hvw⟩ := ih hsub hv
    exact ⟨w, Option.bind_eq_some_iff.mpr ⟨other, ho, hw⟩, hvw⟩

end StorageController.Json
