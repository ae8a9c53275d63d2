import StorageController.Proofs.Json.Diff

namespace StorageController.Json

/-- The second document is the first one without one member: its own, or one of an object inside it. -/
inductive Shortened : Json → Json → Prop
  | drop (front back : Fields) (field : String × Json) :
      Shortened (.obj (front ++ field :: back)) (.obj (front ++ back))
  | member (front back : Fields) (key : String) {value shorter : Json}
      (inside : Shortened value shorter) :
      Shortened (.obj (front ++ (key, value) :: back)) (.obj (front ++ (key, shorter) :: back))
  | item (front back : List Json) {value shorter : Json} (inside : Shortened value shorter) :
      Shortened (.arr (front ++ value :: back)) (.arr (front ++ shorter :: back))

theorem names_append_cons (front back : Fields) (key : String) (value shorter : Json) :
    (front ++ (key, shorter) :: back).map (·.1) = (front ++ (key, value) :: back).map (·.1) := by
  simp

theorem forall_mem_append_cons {α : Type} {P : α → Prop} {front back : List α} {a : α} :
    (∀ b ∈ front ++ a :: back, P b) ↔ (∀ b ∈ front, P b) ∧ P a ∧ ∀ b ∈ back, P b := by
  rw [List.forall_mem_append, List.forall_mem_cons]

/-- A member that is left out is not there any more. -/
theorem lookup_dropped {front back : Fields} {field : String × Json}
    (distinct : ((front ++ field :: back).map (·.1)).Nodup) :
    field.1 ∉ (front ++ back).map (·.1) := by
  have first : ((field :: (front ++ back)).map (·.1)).Nodup :=
    (List.perm_middle.map _).nodup_iff.mp distinct
  exact (List.nodup_cons.mp first).1

namespace Shortened

variable {j shorter : Json}

theorem wellFormed (h : Shortened j shorter) (wf : j.wellFormed = true) :
    shorter.wellFormed = true := by
  induction h with
  | drop front back field =>
    obtain ⟨distinct, each⟩ := (wellFormed_obj _).mp wf
    obtain ⟨first, _, last⟩ := forall_mem_append_cons.mp each
    have fewer : (front ++ back).Sublist (front ++ field :: back) :=
      (List.Sublist.refl front).append (List.sublist_cons_self field back)
    exact (wellFormed_obj _).mpr
      ⟨(fewer.map _).nodup distinct, List.forall_mem_append.mpr ⟨first, last⟩⟩
  | member front back key _ ih =>
    obtain ⟨distinct, each⟩ := (wellFormed_obj _).mp wf
    obtain ⟨first, here, last⟩ := forall_mem_append_cons.mp each
    rw [wellFormed_obj, names_append_cons front back key _ _]
    exact ⟨distinct, forall_mem_append_cons.mpr ⟨first, ih here, last⟩⟩
  | item front back _ ih =>
    obtain ⟨first, here, last⟩ := forall_mem_append_cons.mp ((wellFormed_arr _).mp wf)
    exact (wellFormed_arr _).mpr (forall_mem_append_cons.mpr ⟨first, ih here, last⟩)

theorem nullFreeOutsideLists (h : Shortened j shorter) (free : j.nullFreeOutsideLists = true) :
    shorter.nullFreeOutsideLists = true := by
  induction h with
  | drop front back field =>
    obtain ⟨first, _, last⟩ := forall_mem_append_cons.mp ((nullFreeOutsideLists_obj _).mp free)
    exact (nullFreeOutsideLists_obj _).mpr (List.forall_mem_append.mpr ⟨first, last⟩)
  | member front back key _ ih =>
    obtain ⟨first, here, last⟩ := forall_mem_append_cons.mp ((nullFreeOutsideLists_obj _).mp free)
    exact (nullFreeOutsideLists_obj _).mpr (forall_mem_append_cons.mpr ⟨first, ih here, last⟩)
  | item front back _ _ => rfl

theorem eq_obj {fields : Fields} (h : Shortened j (.obj fields)) : ∃ more, j = .obj more := by
  generalize eq : Json.obj fields = shorter at h
  cases h with
  | drop front back field => exact ⟨_, rfl⟩
  | member front back key _ => exact ⟨_, rfl⟩
  | item => cases eq

end Shortened

theorem isSubset_of_isSubsetItems {front back : List Json} {value other : Json}
    (h : isSubsetItems (front ++ value :: back) (front ++ other :: back) = true) :
    value.isSubset other = true := by
  induction front with
  | nil =>
    rw [List.nil_append, List.nil_append, isSubsetItems, Bool.and_eq_true] at h
    exact h.1
  | cons item front ih =>
    rw [List.cons_append, List.cons_append, isSubsetItems, Bool.and_eq_true] at h
    exact ih h.2

/-- What was left out is missed. -/
theorem isSubset_shortened {j shorter : Json} (h : Shortened j shorter) (wf : j.wellFormed = true) :
    j.isSubset shorter = false := by
  refine Bool.eq_false_iff.mpr fun holds => ?_
  induction h with
  | drop front back field =>
    obtain ⟨distinct, _⟩ := (wellFormed_obj _).mp wf
    rw [isSubset_obj_obj, isSubsetFields_iff] at holds
    obtain ⟨l, found, _⟩ := holds field (by simp)
    have absent := lookup_eq_none_of_not_mem (lookup_dropped distinct)
    rw [absent] at found
    cases found
  | @member front back key value shorter _ ih =>
    obtain ⟨distinct, each⟩ := (wellFormed_obj _).mp wf
    rw [isSubset_obj_obj, isSubsetFields_iff] at holds
    obtain ⟨l, found, sub⟩ := holds (key, value) (by simp)
    rw [← names_append_cons front back key value shorter] at distinct
    have present : (front ++ (key, shorter) :: back).lookup key = some shorter :=
      lookup_of_mem distinct (by simp)
    have eq := Option.some.inj (found.symm.trans present)
    subst eq
    exact ih (each (key, value) (by simp)) sub
  | item front back _ ih =>
    obtain ⟨others, eq, items⟩ := (isSubset_arr_iff _ _).mp holds
    cases eq
    have each := (wellFormed_arr _).mp wf
    exact ih (each _ (by simp)) (isSubset_of_isSubsetItems items)

/-- A value that is carried whole is put as it is, also when it was shortened. -/
theorem isSubset_merge_shortened_value {current : Option Json} {value shorter : Json}
    (shortened : Shortened value shorter) (wf : value.wellFormed = true)
    (free : value.nullFreeOutsideLists = true)
    (apart : ∀ live fields, current = some (.obj live) → value ≠ .obj fields) :
    value.isSubset ((current.getD .null).merge shorter) = false := by
  have put : (current.getD .null).merge shorter = shorter := by
    refine merge_whole_value (shortened.wellFormed wf) (shortened.nullFreeOutsideLists free) ?_
    rintro live fields there rfl
    obtain ⟨more, eq⟩ := shortened.eq_obj
    exact apart live more there eq
  rw [put]
  exact isSubset_shortened shortened wf

/-- An object that is merged with a shortened patch lacks the member that was left out, or a member
that is patched by less than it needs. -/
theorem isSubset_merge_shortened_obj {live fields : Fields} {shorter : Json}
    (distinct : (fields.map (·.1)).Nodup)
    (shortened : Shortened (.obj (diffFields (.obj live) fields)) shorter)
    (inner : ∀ field ∈ fields, ∀ patch less, diffMember (live.lookup field.1) field.2 = some patch →
      Shortened patch less → field.2.isSubset (((live.lookup field.1).getD .null).merge less) = false) :
    isSubset (.obj fields) ((Json.obj live).merge shorter) = false := by
  refine Bool.eq_false_iff.mpr fun holds => ?_
  have names := nodup_diffFields (.obj live) distinct
  generalize eq : Json.obj (diffFields (.obj live) fields) = patch at shortened
  cases shortened with
  | drop front back field =>
    have same : diffFields (.obj live) fields = front ++ field :: back := Json.obj.inj eq
    rw [same] at names
    obtain ⟨value, mem, differs⟩ :=
      mem_diffFields.mp (show field ∈ diffFields (.obj live) fields by simp [same])
    rw [merge_obj, isSubset_obj_obj, isSubsetFields_iff] at holds
    obtain ⟨l, found, sub⟩ := holds _ mem
    -- Nothing is patched under the name, so the live member is still there.
    have kept : (mergeFields live (front ++ back)).lookup field.1 = live.lookup field.1 :=
      lookup_mergeFields_of_not_mem (lookup_dropped names)
    have there : live.lookup field.1 = some l := kept.symm.trans found
    have none : diffMember (live.lookup field.1) value = none :=
      (diffMember_eq_none_iff _ _).mpr ⟨l, there, sub⟩
    cases none.symm.trans differs
  | @member front back key patch less inside =>
    have same : diffFields (.obj live) fields = front ++ (key, patch) :: back := Json.obj.inj eq
    rw [same, ← names_append_cons front back key patch less] at names
    obtain ⟨value, mem, differs⟩ :=
      mem_diffFields.mp (show (key, patch) ∈ diffFields (.obj live) fields by simp [same])
    rw [merge_obj, isSubset_obj_obj, isSubsetFields_iff] at holds
    obtain ⟨l, found, sub⟩ := holds _ mem
    have patched : (mergeFields live (front ++ (key, less) :: back)).lookup key =
        if less = .null then none else some (((live.lookup key).getD .null).merge less) :=
      lookup_mergeFields_of_mem names (by simp)
    have missed := inner _ mem patch less differs inside
    replace found := patched.symm.trans found
    split at found
    · cases found
    · cases found
      exact absurd sub (Bool.eq_false_iff.mp missed)
  | item => cases eq

theorem isSubset_merge_shortened {current : Option Json} {value patch shorter : Json}
    (wf : value.wellFormed = true) (free : value.nullFreeOutsideLists = true)
    (differs : diffMember current value = some patch) (shortened : Shortened patch shorter) :
    value.isSubset ((current.getD .null).merge shorter) = false := by
  induction value using documentInduction generalizing current patch shorter with
  | scalar value scalar =>
    rcases diffMember_eq_some differs with ⟨_, _, _, rfl, _⟩ | ⟨rfl, apart⟩
    · cases scalar
    · exact isSubset_merge_shortened_value shortened wf free apart
  | arr items =>
    rcases diffMember_eq_some differs with ⟨_, _, _, same, _⟩ | ⟨rfl, apart⟩
    · cases same
    · exact isSubset_merge_shortened_value shortened wf free apart
  | obj fields ih =>
    rcases diffMember_eq_some differs with ⟨live, _, rfl, same, rfl⟩ | ⟨rfl, apart⟩
    · cases same
      obtain ⟨distinct, each⟩ := (wellFormed_obj fields).mp wf
      have nulls := (nullFreeOutsideLists_obj fields).mp free
      refine isSubset_merge_shortened_obj distinct shortened ?_
      intro field mem patch less differs inside
      exact ih field mem (each field mem) (nulls field mem) differs inside
    · exact isSubset_merge_shortened_value shortened wf free apart

/-- The patch makes the live object hold the desired one, and no member of it can be left out. -/
theorem diff_sufficient_and_minimal {live desired : Fields}
    (wf : wellFormed (.obj desired) = true) (free : nullFreeOutsideLists (.obj desired) = true) :
    isSubset (.obj desired) ((Json.obj live).merge (.obj (diffFields (.obj live) desired))) =
        true ∧
      ∀ shorter, Shortened (.obj (diffFields (.obj live) desired)) shorter →
        isSubset (.obj desired) ((Json.obj live).merge shorter) = false := by
  refine ⟨isSubset_merge_diffFields wf free, fun shorter shortened => ?_⟩
  have distinct := ((wellFormed_obj desired).mp wf).1
  have each := ((wellFormed_obj desired).mp wf).2
  have nulls := (nullFreeOutsideLists_obj desired).mp free
  refine isSubset_merge_shortened_obj distinct shortened ?_
  intro field mem patch less differs inside
  exact isSubset_merge_shortened (each field mem) (nulls field mem) differs inside

/-- A member inside a member, which the live object holds with another value, is needed. -/
theorem diff_sufficient_and_minimal_nested :
    let desired : Fields :=
      [("labels", .obj [("app", "swift"), ("tier", .int 1)]), ("ports", .arr [.null])]
    let live : Fields := [("labels", .obj [("app", "nova"), ("tier", .bool true)])]
    wellFormed (.obj desired) = true ∧ nullFreeOutsideLists (.obj desired) = true ∧
    diffFields (.obj live) desired =
      [("labels", .obj [("app", "swift")]), ("ports", .arr [.null])] ∧
    isSubset (.obj desired)
      ((Json.obj live).merge (.obj [("labels", .obj []), ("ports", .arr [.null])])) = false := by
  intro desired live
  have wf : wellFormed (.obj desired) = true := by decide
  have free : nullFreeOutsideLists (.obj desired) = true := by decide
  have patch : diffFields (.obj live) desired =
      [("labels", .obj [("app", "swift")]), ("ports", .arr [.null])] := by decide +kernel
  have shortened : Shortened (.obj (diffFields (.obj live) desired))
      (.obj [("labels", .obj []), ("ports", .arr [.null])]) := by
    rw [patch]
    exact .member [] _ "labels" (.drop [] [] ("app", "swift"))
  exact ⟨wf, free, patch, (diff_sufficient_and_minimal wf free).2 _ shortened⟩

end StorageController.Json
