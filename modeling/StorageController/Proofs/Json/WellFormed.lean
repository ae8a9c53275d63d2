import StorageController.Json.Path

namespace StorageController.Json

mutual

/-- No object inside the document names a member twice. -/
def wellFormed : Json → Bool
  | .arr items => wellFormedItems items
  | .obj fields => decide (fields.map (·.1)).Nodup && wellFormedFields fields
  | _ => true

def wellFormedItems : List Json → Bool
  | [] => true
  | item :: rest => wellFormed item && wellFormedItems rest

def wellFormedFields : Fields → Bool
  | [] => true
  | (_, value) :: rest => wellFormed value && wellFormedFields rest

end

mutual

/-- The document holds no null, at any depth. -/
def nullFree : Json → Bool
  | .null => false
  | .arr items => nullFreeItems items
  | .obj fields => nullFreeFields fields
  | _ => true

def nullFreeItems : List Json → Bool
  | [] => true
  | item :: rest => nullFree item && nullFreeItems rest

def nullFreeFields : Fields → Bool
  | [] => true
  | (_, value) :: rest => nullFree value && nullFreeFields rest

end

mutual

/-- The document holds no null other than inside a list. -/
def nullFreeOutsideLists : Json → Bool
  | .null => false
  | .obj fields => nullFreeFieldsOutsideLists fields
  | _ => true

def nullFreeFieldsOutsideLists : Fields → Bool
  | [] => true
  | (_, value) :: rest => nullFreeOutsideLists value && nullFreeFieldsOutsideLists rest

end

def isScalar : Json → Bool
  | .arr _ | .obj _ => false
  | _ => true

/-- Induction over a document: over the items of lists and the members of objects. -/
@[elab_as_elim]
theorem documentInduction {motive : Json → Prop}
    (scalar : ∀ j, j.isScalar = true → motive j)
    (arr : ∀ items, (∀ item ∈ items, motive item) → motive (.arr items))
    (obj : ∀ fields : Fields, (∀ field ∈ fields, motive field.2) → motive (.obj fields))
    (j : Json) : motive j :=
  Json.rec (motive_1 := motive) (motive_2 := fun items => ∀ item ∈ items, motive item)
    (motive_3 := fun fields => ∀ field ∈ fields, motive field.2)
    (motive_4 := fun field => motive field.2)
    (scalar .null rfl) (fun b => scalar (.bool b) rfl) (fun n => scalar (.int n) rfl)
    (fun x => scalar (.float x) rfl) (fun s => scalar (.str s) rfl)
    (fun items ih => arr items ih) (fun fields ih => obj fields ih)
    (by simp) (fun _ _ head tail => List.forall_mem_cons.mpr ⟨head, tail⟩)
    (by simp) (fun _ _ head tail => List.forall_mem_cons.mpr ⟨head, tail⟩)
    (fun _ _ value => value) j

theorem wellFormedItems_iff (items : List Json) :
    wellFormedItems items = true ↔ ∀ item ∈ items, item.wellFormed = true := by
  induction items with
  | nil => simp [wellFormedItems]
  | cons item rest ih => simp [wellFormedItems, ih]

theorem wellFormedFields_iff (fields : Fields) :
    wellFormedFields fields = true ↔ ∀ field ∈ fields, field.2.wellFormed = true := by
  induction fields with
  | nil => simp [wellFormedFields]
  | cons field rest ih => simp [wellFormedFields, ih]

@[simp] theorem wellFormed_arr (items : List Json) :
    wellFormed (.arr items) = true ↔ ∀ item ∈ items, item.wellFormed = true := by
  rw [wellFormed, wellFormedItems_iff]

@[simp] theorem wellFormed_obj (fields : Fields) :
    wellFormed (.obj fields) = true ↔
      (fields.map (·.1)).Nodup ∧ ∀ field ∈ fields, field.2.wellFormed = true := by
  rw [wellFormed, Bool.and_eq_true, decide_eq_true_eq, wellFormedFields_iff]

theorem nullFreeFields_iff (fields : Fields) :
    nullFreeFields fields = true ↔ ∀ field ∈ fields, field.2.nullFree = true := by
  induction fields with
  | nil => simp [nullFreeFields]
  | cons field rest ih => simp [nullFreeFields, ih]

@[simp] theorem nullFree_obj (fields : Fields) :
    nullFree (.obj fields) = true ↔ ∀ field ∈ fields, field.2.nullFree = true := by
  rw [nullFree, nullFreeFields_iff]

theorem nullFreeFieldsOutsideLists_iff (fields : Fields) :
    nullFreeFieldsOutsideLists fields = true ↔
      ∀ field ∈ fields, field.2.nullFreeOutsideLists = true := by
  induction fields with
  | nil => simp [nullFreeFieldsOutsideLists]
  | cons field rest ih => simp [nullFreeFieldsOutsideLists, ih]

@[simp] theorem nullFreeOutsideLists_obj (fields : Fields) :
    nullFreeOutsideLists (.obj fields) = true ↔
      ∀ field ∈ fields, field.2.nullFreeOutsideLists = true := by
  rw [nullFreeOutsideLists, nullFreeFieldsOutsideLists_iff]

theorem nullFreeOutsideLists_of_nullFree {j : Json} (h : j.nullFree = true) :
    j.nullFreeOutsideLists = true := by
  induction j using documentInduction with
  | scalar j scalar => cases j <;> simp_all [nullFree, nullFreeOutsideLists, isScalar]
  | arr items => rfl
  | obj fields ih =>
    have each := (nullFree_obj fields).mp h
    exact (nullFreeOutsideLists_obj fields).mpr fun field mem => ih field mem (each field mem)

theorem mem_of_lookup {fields : Fields} {key : String} {value : Json}
    (h : fields.lookup key = some value) : (key, value) ∈ fields := by
  obtain ⟨before, after, rfl, _⟩ := List.lookup_eq_some_iff.mp h
  simp

/-- Without repeated names, looking a member up finds every member there is. -/
theorem lookup_of_mem {fields : Fields} {key : String} {value : Json}
    (distinct : (fields.map (·.1)).Nodup) (h : (key, value) ∈ fields) :
    fields.lookup key = some value := by
  induction fields with
  | nil => simp at h
  | cons field rest ih =>
    obtain ⟨name, first⟩ := field
    obtain ⟨absent, distinct⟩ := List.nodup_cons.mp distinct
    rcases List.mem_cons.mp h with eq | h
    · obtain ⟨rfl, rfl⟩ := Prod.mk.inj eq
      exact List.lookup_cons_self
    · have ne : (key == name) = false := by
        apply beq_eq_false_iff_ne.mpr
        intro eq
        exact absent (List.mem_map.mpr ⟨(key, value), h, eq⟩)
      rw [List.lookup_cons, ne]
      exact ih distinct h

theorem lookup_eq_none_of_not_mem {fields : Fields} {key : String}
    (h : key ∉ fields.map (·.1)) : fields.lookup key = none := by
  rw [List.lookup_eq_none_iff]
  intro field mem
  have ne : key ≠ field.1 := fun eq => h (List.mem_map.mpr ⟨field, mem, eq.symm⟩)
  simpa using ne

theorem eq_obj_of_get? {j value : Json} {key : String} (h : j.get? key = some value) :
    ∃ fields, j = .obj fields ∧ fields.lookup key = some value := by
  cases j with
  | obj fields => exact ⟨fields, rfl, h⟩
  | _ => cases h

theorem get?_wellFormed {j value : Json} {key : String} (h : j.wellFormed = true)
    (hv : j.get? key = some value) : value.wellFormed = true := by
  cases j with
  | obj fields => exact ((wellFormed_obj fields).mp h).2 _ (mem_of_lookup hv)
  | _ => cases hv

theorem wellFormed_getD {fields : Fields} {key : String} {default : Json}
    (wf : wellFormed (.obj fields) = true) (hd : default.wellFormed = true) :
    ((fields.lookup key).getD default).wellFormed = true := by
  cases h : fields.lookup key with
  | none => exact hd
  | some value => exact ((wellFormed_obj fields).mp wf).2 _ (mem_of_lookup h)

theorem path?_wellFormed {path : List String} {j value : Json} (h : j.wellFormed = true)
    (hv : j.path? path = some value) : value.wellFormed = true := by
  induction path generalizing j with
  | nil => cases hv; exact h
  | cons key keys ih =>
    obtain ⟨member, hm, hv⟩ := Option.bind_eq_some_iff.mp hv
    exact ih (get?_wellFormed h hm) hv

theorem path?_append (front back : List String) (j : Json) :
    j.path? (front ++ back) = (j.path? front).bind (path? back) := by
  induction front generalizing j with
  | nil => rfl
  | cons key keys ih =>
    simp only [List.cons_append, path?]
    cases j.get? key with
    | none => rfl
    | some member => exact ih member

/-- What holds an object somewhere along a path is an object. -/
theorem eq_obj_of_path? {path : List String} {j : Json} {fields : Fields}
    (h : j.path? path = some (.obj fields)) : ∃ members, j = .obj members := by
  cases j with
  | obj members => exact ⟨members, rfl⟩
  | _ => cases path <;> simp [path?, get?] at h

theorem mem_setField {fields : Fields} {key : String} {value : Json} {field : String × Json}
    (h : field ∈ setField key value fields) : field = (key, value) ∨ field ∈ fields := by
  induction fields with
  | nil => exact Or.inl (by simpa [setField] using h)
  | cons first rest ih =>
    simp only [setField] at h
    split at h
    next eq =>
      rcases List.mem_cons.mp h with rfl | h
      · exact Or.inl (by rw [eq])
      · exact Or.inr (List.mem_cons_of_mem _ h)
    next =>
      rcases List.mem_cons.mp h with rfl | h
      · exact Or.inr (List.mem_cons_self)
      · exact (ih h).imp_right (List.mem_cons_of_mem _)

theorem mem_names_setField (fields : Fields) (key name : String) (value : Json) :
    name ∈ (setField key value fields).map (·.1) ↔ name = key ∨ name ∈ fields.map (·.1) := by
  induction fields with
  | nil => simp [setField]
  | cons first rest ih => grind [setField]

theorem nodup_setField {fields : Fields} {key : String} {value : Json}
    (h : (fields.map (·.1)).Nodup) : ((setField key value fields).map (·.1)).Nodup := by
  induction fields with
  | nil => simp [setField]
  | cons first rest ih =>
    obtain ⟨absent, distinct⟩ := List.nodup_cons.mp h
    simp only [setField]
    split
    · exact h
    next ne =>
      refine List.nodup_cons.mpr ⟨?_, ih distinct⟩
      intro mem
      rcases (mem_names_setField rest key first.1 value).mp mem with eq | mem
      · exact ne eq
      · exact absent mem

theorem wellFormed_setField {fields : Fields} {key : String} {value : Json}
    (h : wellFormed (.obj fields) = true) (hv : value.wellFormed = true) :
    wellFormed (.obj (setField key value fields)) = true := by
  rw [wellFormed_obj] at h ⊢
  refine ⟨nodup_setField h.1, fun field mem => ?_⟩
  rcases mem_setField mem with rfl | mem
  · exact hv
  · exact h.2 field mem

theorem nodup_eraseField {fields : Fields} (key : String) (h : (fields.map (·.1)).Nodup) :
    ((eraseField key fields).map (·.1)).Nodup :=
  (List.filter_sublist.map _).nodup h

end StorageController.Json
