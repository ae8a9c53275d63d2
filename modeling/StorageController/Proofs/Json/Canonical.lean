import StorageController.Proofs.Json.ReadBack

namespace StorageController.Json

variable {a b : Json}

theorem lookup_insertSorted (key k : String) (value : Json) (fields : Fields) :
    (insertSorted key value fields).lookup k = if k = key then some value else fields.lookup k := by
  induction fields with
  | nil => grind [insertSorted]
  | cons field rest ih => grind [insertSorted]

theorem mem_insertSorted {fields : Fields} {key : String} {value : Json} {field : String × Json} :
    field ∈ insertSorted key value fields ↔ field = (key, value) ∨ field ∈ fields := by
  induction fields with
  | nil => simp [insertSorted]
  | cons first rest ih => grind [insertSorted]

/-- Of members with one name the first stays the first. -/
theorem lookup_sortFields (k : String) (fields : Fields) :
    (sortFields fields).lookup k = (fields.lookup k).map sortKeys := by
  induction fields with
  | nil => rfl
  | cons field rest ih =>
    obtain ⟨key, value⟩ := field
    rw [sortFields, lookup_insertSorted, ih, List.lookup_cons]
    by_cases eq : k = key
    · simp [eq]
    · simp [eq, beq_false_of_ne eq]

theorem mem_sortFields {fields : Fields} {field : String × Json} (h : field ∈ sortFields fields) :
    ∃ value, (field.1, value) ∈ fields ∧ field.2 = sortKeys value := by
  induction fields with
  | nil => simp [sortFields] at h
  | cons first rest ih =>
    rcases mem_insertSorted.mp h with rfl | h
    · exact ⟨first.2, List.mem_cons_self, rfl⟩
    · obtain ⟨value, mem, eq⟩ := ih h
      exact ⟨value, List.mem_cons_of_mem _ mem, eq⟩

theorem sortItems_eq_map (items : List Json) : sortItems items = items.map sortKeys := by
  induction items with
  | nil => rfl
  | cons item rest ih => rw [sortItems, ih, List.map_cons]

theorem floatFree_sortKeys {j : Json} (h : j.floatFree = true) : (sortKeys j).floatFree = true := by
  induction j using documentInduction with
  | scalar j scalar => cases j <;> first | exact h | cases scalar
  | arr items ih =>
    rw [sortKeys, sortItems_eq_map, floatFree_arr, List.forall_mem_map]
    exact fun item mem => ih item mem ((floatFree_arr items).mp h item mem)
  | obj fields ih =>
    rw [sortKeys, floatFree_obj]
    intro field mem
    obtain ⟨value, held, eq⟩ := mem_sortFields mem
    rw [eq]
    exact ih _ held ((floatFree_obj fields).mp h _ held)

/-- The canonical text is read as the document with its members in order. -/
theorem ofText?_canonical {j : Json} (h : j.floatFree = true) :
    ofText? j.canonical = some (sortKeys j) :=
  ofText?_render Separators.padded_compact (floatFree_sortKeys h)

theorem get?_sortKeys (j : Json) (key : String) :
    (sortKeys j).get? key = (j.get? key).map sortKeys := by
  cases j with
  | obj fields => exact lookup_sortFields key fields
  | _ => rfl

theorem path?_sortKeys (path : List String) (j : Json) :
    (sortKeys j).path? path = (j.path? path).map sortKeys := by
  induction path generalizing j with
  | nil => rfl
  | cons key keys ih =>
    rw [path?, path?, get?_sortKeys]
    cases j.get? key with
    | none => rfl
    | some member => exact ih member

/-- Documents have one canonical text when they are the same up to the order of members. -/
theorem canonical_eq_iff (ha : a.floatFree = true) (hb : b.floatFree = true) :
    a.canonical = b.canonical ↔ sortKeys a = sortKeys b := by
  constructor
  · intro text
    have read := congrArg ofText? text
    rw [ofText?_canonical ha, ofText?_canonical hb] at read
    exact Option.some.inj read
  · intro same
    rw [canonical, same, canonical]

theorem path?_of_sortKeys_eq (same : sortKeys a = sortKeys b) (path : List String) :
    (a.path? path).map sortKeys = (b.path? path).map sortKeys := by
  rw [← path?_sortKeys, ← path?_sortKeys, same]

theorem map_of_sortKeys_eq {items others : List Json}
    (same : sortKeys (.arr items) = sortKeys (.arr others)) :
    items.map sortKeys = others.map sortKeys := by
  rw [sortKeys, sortKeys, sortItems_eq_map, sortItems_eq_map] at same
  exact Json.arr.inj same

theorem getElem?_of_sortKeys_eq {items others : List Json}
    (same : sortKeys (.arr items) = sortKeys (.arr others)) (i : Nat) :
    items[i]?.map sortKeys = others[i]?.map sortKeys := by
  rw [← List.getElem?_map, ← List.getElem?_map, map_of_sortKeys_eq same]

end StorageController.Json
