import Mathlib.Data.List.Perm.Subperm
import StorageController.Proofs.Json.Subset

namespace StorageController.Json

theorem names_subset {fields others : Fields} {held : String × Json → Json → Prop}
    (h : ∀ field ∈ fields, ∃ l, others.lookup field.1 = some l ∧ held field l) :
    fields.map (·.1) ⊆ others.map (·.1) := by
  intro name mem
  obtain ⟨field, inside, rfl⟩ := List.mem_map.mp mem
  obtain ⟨l, found, _⟩ := h field inside
  exact List.mem_map.mpr ⟨(field.1, l), mem_of_lookup found, rfl⟩

theorem length_le_of_names_subset {fields others : Fields} (distinct : (fields.map (·.1)).Nodup)
    (h : fields.map (·.1) ⊆ others.map (·.1)) : fields.length ≤ others.length := by
  have bound := (List.subperm_of_subset distinct h).length_le
  rwa [List.length_map, List.length_map] at bound

/-- As many distinct names as there are on the other side are all the names there are. -/
theorem names_perm {fields others : Fields} (distinct : (fields.map (·.1)).Nodup)
    (length : fields.length = others.length) (h : fields.map (·.1) ⊆ others.map (·.1)) :
    (fields.map (·.1)).Perm (others.map (·.1)) := by
  refine (List.subperm_of_subset distinct h).perm_of_length_le ?_
  rw [List.length_map, List.length_map]
  exact Nat.le_of_eq length.symm

theorem sameFields_iff (fields others : Fields) :
    sameFields fields others = true ↔
      ∀ field ∈ fields, ∃ w, others.lookup field.1 = some w ∧ field.2.same w = true := by
  refine ⟨fun h => ?_, sameFields_of_lookup⟩
  induction fields with
  | nil => simp
  | cons field rest ih =>
    obtain ⟨key, value⟩ := field
    rw [sameFields, Bool.and_eq_true] at h
    refine List.forall_mem_cons.mpr ⟨?_, ih h.2⟩
    cases found : others.lookup key with
    | none => simp [found] at h
    | some w => exact ⟨w, rfl, by simpa [found] using h.1⟩

theorem same_obj_iff (fields : Fields) (other : Json) :
    same (.obj fields) other = true ↔
      ∃ others, other = .obj others ∧ fields.length = others.length ∧
        sameFields fields others = true := by
  cases other <;> simp [same]

theorem same_arr_iff (items : List Json) (other : Json) :
    same (.arr items) other = true ↔
      ∃ others, other = .arr others ∧ sameItems items others = true := by
  cases other <;> simp [same]

/-! Equal documents are subsets of each other. -/

theorem isSubsetItems_of_same {items others : List Json}
    (h : ∀ item ∈ items, ∀ other : Json, item.same other = true → item.isSubset other = true)
    (same : sameItems items others = true) : isSubsetItems items others = true := by
  induction items generalizing others with
  | nil => cases others <;> simp_all [sameItems, isSubsetItems]
  | cons item rest ih =>
    cases others with
    | nil => simp [sameItems] at same
    | cons other others =>
      obtain ⟨first, remaining⟩ := List.forall_mem_cons.mp h
      rw [sameItems, Bool.and_eq_true] at same
      rw [isSubsetItems, Bool.and_eq_true]
      exact ⟨first other same.1, ih remaining same.2⟩

theorem isSubset_of_same {a b : Json} (h : a.same b = true) : a.isSubset b = true := by
  induction a using documentInduction generalizing b with
  | scalar a scalar =>
    rw [same_of_isScalar b scalar] at h
    rw [isSubset_of_isScalar b scalar, h]
  | arr xs ih =>
    obtain ⟨ys, rfl, items⟩ := (same_arr_iff _ _).mp h
    exact (isSubset_arr_iff _ _).mpr
      ⟨ys, rfl, isSubsetItems_of_same (fun x mem y => ih x mem) items⟩
  | obj xs ih =>
    obtain ⟨ys, rfl, _, fields⟩ := (same_obj_iff _ _).mp h
    rw [isSubset_obj_obj, isSubsetFields_iff]
    intro field mem
    obtain ⟨w, found, equal⟩ := (sameFields_iff _ _).mp fields field mem
    exact ⟨w, found, ih field mem equal⟩

theorem sameItems_symm {items others : List Json}
    (h : ∀ item ∈ items, ∀ other : Json, item.same other = true → other.same item = true)
    (same : sameItems items others = true) : sameItems others items = true := by
  induction items generalizing others with
  | nil => cases others <;> simp_all [sameItems]
  | cons item rest ih =>
    cases others with
    | nil => simp [sameItems] at same
    | cons other others =>
      obtain ⟨first, remaining⟩ := List.forall_mem_cons.mp h
      rw [sameItems, Bool.and_eq_true] at same ⊢
      exact ⟨first other same.1, ih remaining same.2⟩

theorem same_symm {a b : Json} (wf : a.wellFormed = true) (h : a.same b = true) :
    b.same a = true := by
  induction a using documentInduction generalizing b with
  | scalar a scalar =>
    rw [same_of_isScalar b scalar] at h
    rw [same_of_isScalar a (isScalar_of_sameScalar h)]
    exact sameScalar_symm h
  | arr xs ih =>
    have each := (wellFormed_arr xs).mp wf
    obtain ⟨ys, rfl, items⟩ := (same_arr_iff _ _).mp h
    exact sameItems_symm (fun x mem y => ih x mem (each x mem)) items
  | obj xs ih =>
    obtain ⟨distinct, each⟩ := (wellFormed_obj xs).mp wf
    obtain ⟨ys, rfl, length, fields⟩ := (same_obj_iff _ _).mp h
    rw [sameFields_iff] at fields
    have perm := names_perm distinct length (names_subset fields)
    refine (same_obj_iff _ _).mpr ⟨xs, rfl, length.symm, (sameFields_iff _ _).mpr ?_⟩
    rintro ⟨name, w⟩ mem
    -- The name is one of the left side too, and the right side names it only once.
    obtain ⟨⟨_, v⟩, inside, rfl⟩ :=
      List.mem_map.mp (perm.mem_iff.mpr (List.mem_map_of_mem (f := (·.1)) mem))
    obtain ⟨w', found, equal⟩ := fields _ inside
    obtain rfl : w = w' := by
      have here := lookup_of_mem (perm.nodup_iff.mp distinct) mem
      exact Option.some.inj (here.symm.trans found)
    exact ⟨v, lookup_of_mem distinct inside, ih _ inside (each _ inside) equal⟩

/-! Subsets of each other are equal. -/

theorem sameItems_of_isSubsetItems {items others : List Json}
    (h : ∀ item ∈ items, ∀ other ∈ others, item.isSubset other = true →
      other.isSubset item = true → item.same other = true)
    (there : isSubsetItems items others = true) (back : isSubsetItems others items = true) :
    sameItems items others = true := by
  induction items generalizing others with
  | nil => cases others <;> simp_all [sameItems, isSubsetItems]
  | cons item rest ih =>
    cases others with
    | nil => simp [isSubsetItems] at there
    | cons other others =>
      obtain ⟨first, remaining⟩ := List.forall_mem_cons.mp h
      rw [isSubsetItems, Bool.and_eq_true] at there back
      rw [sameItems, Bool.and_eq_true]
      refine ⟨first other List.mem_cons_self there.1 back.1, ih ?_ there.2 back.2⟩
      exact fun x mem y inside => remaining x mem y (List.mem_cons_of_mem _ inside)

theorem same_of_isSubset {a b : Json} (wa : a.wellFormed = true) (wb : b.wellFormed = true)
    (there : a.isSubset b = true) (back : b.isSubset a = true) : a.same b = true := by
  induction a using documentInduction generalizing b with
  | scalar a scalar =>
    rw [isSubset_of_isScalar b scalar] at there
    rw [same_of_isScalar b scalar, there]
  | arr xs ih =>
    have each := (wellFormed_arr xs).mp wa
    obtain ⟨ys, rfl, items⟩ := (isSubset_arr_iff _ _).mp there
    have each' := (wellFormed_arr ys).mp wb
    simp only [isSubset] at back
    refine (same_arr_iff _ _).mpr ⟨ys, rfl, sameItems_of_isSubsetItems ?_ items back⟩
    exact fun x mem y inside => ih x mem (each x mem) (each' y inside)
  | obj xs ih =>
    obtain ⟨distinct, each⟩ := (wellFormed_obj xs).mp wa
    obtain ⟨ys, rfl, forth⟩ := (isSubset_obj_iff _ _).mp there
    obtain ⟨distinct', each'⟩ := (wellFormed_obj ys).mp wb
    rw [isSubset_obj_obj] at back
    rw [isSubsetFields_iff] at forth back
    have length : xs.length = ys.length := by
      have less := length_le_of_names_subset distinct (names_subset forth)
      have more := length_le_of_names_subset distinct' (names_subset back)
      exact Nat.le_antisymm less more
    refine (same_obj_iff _ _).mpr ⟨ys, rfl, length, (sameFields_iff _ _).mpr ?_⟩
    intro field mem
    obtain ⟨w, found, held⟩ := forth field mem
    have inside := mem_of_lookup found
    obtain ⟨v, found', held'⟩ := back _ inside
    obtain rfl : field.2 = v := Option.some.inj ((lookup_of_mem distinct mem).symm.trans found')
    exact ⟨w, found, ih field mem (each field mem) (each' _ inside) held held'⟩

/-- Members that only the live document has do not count. -/
theorem isSubset_append {fields : Fields} (further : Fields)
    (wf : wellFormed (.obj fields) = true) :
    isSubset (.obj fields) (.obj (fields ++ further)) = true := by
  have self := isSubset_refl wf
  rw [isSubset_obj_obj, isSubsetFields_iff] at self ⊢
  intro field mem
  obtain ⟨l, found, held⟩ := self field mem
  obtain ⟨before, after, eq, absent⟩ := List.lookup_eq_some_iff.mp found
  refine ⟨l, List.lookup_eq_some_iff.mpr ⟨before, after ++ further, ?_, absent⟩, held⟩
  rw [eq, List.append_assoc, List.cons_append]

/-- Documents are ordered by what they hold: every document holds itself, a document holds what any
document holds that it holds, and two documents hold each other exactly if they are equal. What a
document holds beyond the members of another makes no difference. -/
theorem isSubset_order {a b c : Json} (wa : a.wellFormed = true) (wb : b.wellFormed = true) :
    a.isSubset a = true ∧
    (a.isSubset b = true → b.isSubset c = true → a.isSubset c = true) ∧
    ((a.isSubset b = true ∧ b.isSubset a = true) ↔ a.same b = true) ∧
    ∀ fields further, a = .obj fields → a.isSubset (.obj (fields ++ further)) = true := by
  refine ⟨isSubset_refl wa, isSubset_trans, ⟨?_, ?_⟩, ?_⟩
  · rintro ⟨there, back⟩
    exact same_of_isSubset wa wb there back
  · intro equal
    exact ⟨isSubset_of_same equal, isSubset_of_same (same_symm wa equal)⟩
  · rintro fields further rfl
    exact isSubset_append further wa

/-- A replica count of one, written in two ways, and a document with a default filled in. -/
theorem isSubset_order_defaulted :
    let a : Json := .obj
      [("replicas", .bool true), ("ports", .arr [.obj [("port", .int 6200)]]), ("tag", .null)]
    let b : Json := .obj
      [("tag", .null), ("replicas", .float ⟨false, 1, 0⟩),
       ("ports", .arr [.obj [("port", .float ⟨false, 3100, 1⟩)]])]
    let c : Json := .obj
      [("replicas", .int 1), ("tag", .null),
       ("ports", .arr [.obj [("protocol", "TCP"), ("port", .int 6200)]])]
    a.wellFormed = true ∧ b.wellFormed = true ∧ a.same b = true ∧ a.isSubset b = true ∧
      b.isSubset a = true ∧ a.isSubset c = true ∧ c.isSubset a = false ∧ a.same c = false := by
  intro a b c
  have wa : a.wellFormed = true := by decide
  have wb : b.wellFormed = true := by decide
  have equal : a.same b = true := by decide +kernel
  have below : b.isSubset c = true := by decide +kernel
  obtain ⟨_, trans, equality, _⟩ := isSubset_order (c := c) wa wb
  obtain ⟨there, back⟩ := equality.mpr equal
  exact ⟨wa, wb, equal, there, back, trans there below, by decide +kernel, by decide +kernel⟩

end StorageController.Json
