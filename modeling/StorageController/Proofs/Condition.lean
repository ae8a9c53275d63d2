import StorageController.Condition

namespace StorageController.Condition

open Json

def Entries (entries : List Json) : Prop :=
  ∀ entry ∈ entries, ∃ fields, entry = .obj fields

/-- The entries after several reports, one after the other, each at the time for its type. -/
def recordAll (times : Json → String) (reports : List Report) (entries : List Json) :
    Except Fault (List Json) :=
  reports.foldlM (fun entries r => r.record (times r.type) entries) entries

theorem entry_isObject (r : Report) (transition : Json) :
    ∃ fields, r.entry transition = .obj fields :=
  ⟨_, rfl⟩

theorem Report.transition_obj (r : Report) (now : String) (fields : Fields) :
    ∃ time, r.transition now (.obj fields) = .ok time := by
  simp only [Report.transition, Json.lookupD, Json.lookup, Except.map, bind, Except.bind]
  split
  · exact ⟨_, rfl⟩
  · exact ⟨_, rfl⟩

theorem Report.record_entries {entries : List Json} (r : Report) (now : String)
    (h : Entries entries) : ∃ after, r.record now entries = .ok after ∧ Entries after := by
  induction entries with
  | nil =>
    obtain ⟨fields, eq⟩ := entry_isObject r (.str now)
    exact ⟨[r.entry (.str now)], rfl, by simp [Entries, eq]⟩
  | cons entry rest ih =>
    obtain ⟨⟨fields, rfl⟩, others⟩ := List.forall_mem_cons.mp h
    obtain ⟨after, eq, shaped⟩ := ih others
    obtain ⟨time, ht⟩ := r.transition_obj now fields
    simp only [Report.record, Json.lookupD, Json.lookup, Except.map, bind, Except.bind, ht, eq]
    split
    · exact ⟨r.entry time :: rest, rfl, List.forall_mem_cons.mpr ⟨entry_isObject r time, others⟩⟩
    · exact ⟨.obj fields :: after, rfl, List.forall_mem_cons.mpr ⟨⟨fields, rfl⟩, shaped⟩⟩

theorem recordAll_entries {entries : List Json} (times : Json → String) (reports : List Report)
    (h : Entries entries) :
    ∃ after, recordAll times reports entries = .ok after ∧ Entries after := by
  induction reports generalizing entries with
  | nil => exact ⟨entries, rfl, h⟩
  | cons r rest ih =>
    obtain ⟨middle, eq, shaped⟩ := r.record_entries (times r.type) h
    obtain ⟨after, eq', shaped'⟩ := ih shaped
    refine ⟨after, ?_, shaped'⟩
    rw [recordAll, List.foldlM_cons, eq]
    exact eq'

/-- After a report there are the entries from before and one for the report. -/
theorem Report.mem_record {r : Report} {now : String} {entries after : List Json}
    (h : r.record now entries = .ok after) :
    ∀ entry ∈ after, entry ∈ entries ∨ ∃ time, entry = r.entry time := by
  induction entries generalizing after with
  | nil =>
    cases h
    exact List.forall_mem_singleton.mpr (Or.inr ⟨_, rfl⟩)
  | cons first rest ih =>
    rw [record] at h
    cases type : first.lookupD "type" .null with
    | error fault => rw [type] at h; cases h
    | ok value =>
      rw [type] at h
      change (if value.same r.type then _ else _) = _ at h
      split at h
      · cases time : r.transition now first with
        | error fault => rw [time] at h; cases h
        | ok time =>
          rw [time] at h
          cases h
          exact List.forall_mem_cons.mpr
            ⟨Or.inr ⟨_, rfl⟩, fun entry mem => Or.inl (List.mem_cons_of_mem _ mem)⟩
      · cases further : r.record now rest with
        | error fault => rw [further] at h; cases h
        | ok middle =>
          rw [further] at h
          cases h
          refine List.forall_mem_cons.mpr ⟨Or.inl List.mem_cons_self, fun entry mem => ?_⟩
          exact (ih further entry mem).imp_left (List.mem_cons_of_mem _)

theorem same_str_iff {j : Json} {text : String} : j.same (.str text) = true ↔ j = .str text := by
  cases j <;> simp [same, sameScalar, worth?]

def find (type : Json) (entries : List Json) : Option Json :=
  entries.find? fun entry => decide (entry.get? "type" = some type)

structure Report.Plain (r : Report) : Prop where
  type : ∃ text, r.type = .str text
  status : ∃ text, r.status = .str text

/-- The time of the last transition after a report at `now`, given the condition before it. -/
def Report.since (r : Report) (now : String) : Option Json → Json
  | some entry =>
    if entry.get? "status" = some r.status then (entry.get? "lastTransitionTime").getD (.str now)
    else .str now
  | none => .str now

variable {r : Report} {now later : String} {entries after : List Json}

theorem find_cons (type entry : Json) (rest : List Json) :
    find type (entry :: rest) =
      if entry.get? "type" = some type then some entry else find type rest := by
  by_cases h : entry.get? "type" = some type <;> simp [find, h]

theorem get?_entry_type (r : Report) (time : Json) : (r.entry time).get? "type" = some r.type := rfl

theorem get?_entry_status (r : Report) (time : Json) :
    (r.entry time).get? "status" = some r.status := rfl

theorem get?_entry_time (r : Report) (time : Json) :
    (r.entry time).get? "lastTransitionTime" = some time := rfl

theorem since_entry (r : Report) (now : String) (time : Json) :
    r.since now (some (r.entry time)) = time := by
  rw [Report.since, if_pos (get?_entry_status r time), get?_entry_time, Option.getD_some]

/-- What is looked up is a text as soon as it equals one; a missing member equals none. -/
theorem same_getD_iff {member : Option Json} {text : Json} (plain : ∃ s, text = .str s) :
    (member.getD .null).same text = true ↔ member = some text := by
  obtain ⟨s, rfl⟩ := plain
  rw [same_str_iff]
  cases member with
  | none => simp
  | some value => simp

theorem lookupD_get? (fields : Fields) (key : String) (default : Json) :
    (Json.obj fields).lookupD key default = .ok (((Json.obj fields).get? key).getD default) := rfl

theorem Report.transition_eq (plain : r.Plain) (now : String) (fields : Fields) :
    r.transition now (.obj fields) = .ok (r.since now (some (.obj fields))) := by
  simp only [transition, lookupD_get?, bind, Except.bind, since, same_getD_iff plain.status]
  by_cases h : (Json.obj fields).get? "status" = some r.status
  · rw [if_pos h, if_pos h]
  · rw [if_neg h, if_neg h]
    rfl

theorem Report.record_cons (plain : r.Plain) (now : String) (fields : Fields) (rest : List Json) :
    r.record now (.obj fields :: rest) =
      if (Json.obj fields).get? "type" = some r.type then
        .ok (r.entry (r.since now (some (.obj fields))) :: rest)
      else (r.record now rest).map (.obj fields :: ·) := by
  simp only [record, Report.transition_eq plain, lookupD_get?, bind, Except.bind,
    same_getD_iff plain.type]
  by_cases h : (Json.obj fields).get? "type" = some r.type
  · rw [if_pos h, if_pos h]
    rfl
  · rw [if_neg h, if_neg h]
    cases r.record now rest <;> rfl

theorem Report.find_record (plain : r.Plain) (shaped : Entries entries)
    (h : r.record now entries = .ok after) (type : Json) :
    find type after =
      if type = r.type then some (r.entry (r.since now (find r.type entries)))
      else find type entries := by
  induction entries generalizing after with
  | nil =>
    cases h
    rw [find_cons, get?_entry_type]
    by_cases eq : type = r.type
    · simp [eq, find, since]
    · simp [eq, Ne.symm eq, find]
  | cons entry rest ih =>
    obtain ⟨⟨fields, rfl⟩, others⟩ := List.forall_mem_cons.mp shaped
    rw [Report.record_cons plain] at h
    split at h
    next typed =>
      cases h
      rw [find_cons, find_cons, find_cons, get?_entry_type, typed, if_pos rfl]
      by_cases eq : type = r.type
      · simp [eq]
      · simp [eq, Ne.symm eq]
    next other =>
      cases further : r.record now rest with
      | error fault => rw [further] at h; cases h
      | ok middle =>
        rw [further] at h
        cases h
        rw [find_cons, find_cons, find_cons, if_neg other, ih others further]
        by_cases eq : type = r.type
        · subst eq
          rw [if_neg other, if_pos rfl, if_pos rfl]
        · simp only [if_neg eq]

/-- A report that was recorded stands among the conditions, whatever their shape, and the conditions
of other types are as before. -/
theorem Report.find_of_record (plain : r.Plain) (h : r.record now entries = .ok after) :
    (∃ time, find r.type after = some (r.entry time)) ∧
      ∀ type, type ≠ r.type → find type after = find type entries := by
  induction entries generalizing after with
  | nil =>
    cases h
    have standing : find r.type [r.entry (.str now)] = some (r.entry (.str now)) := by
      rw [find_cons, get?_entry_type, if_pos rfl]
    refine ⟨⟨_, standing⟩, ?_⟩
    intro type ne
    rw [find_cons, get?_entry_type, if_neg (by simp [Ne.symm ne])]
  | cons entry rest ih =>
    cases entry with
    | obj fields =>
      rw [Report.record_cons plain] at h
      split at h
      next typed =>
        cases h
        refine ⟨⟨_, by rw [find_cons, get?_entry_type, if_pos rfl]⟩, ?_⟩
        intro type ne
        rw [find_cons, find_cons, get?_entry_type, typed]
        simp [Ne.symm ne]
      next other =>
        cases further : r.record now rest with
        | error fault => rw [further] at h; cases h
        | ok middle =>
          rw [further] at h
          cases h
          obtain ⟨⟨time, found⟩, kept⟩ := ih further
          refine ⟨⟨time, by rw [find_cons, if_neg other, found]⟩, ?_⟩
          intro type ne
          rw [find_cons, find_cons, kept type ne]
    | _ => cases h

/-- A report that stands among the conditions changes nothing, whenever it is made again. -/
theorem Report.record_of_find (plain : r.Plain) (shaped : Entries entries) {time : Json}
    (h : find r.type entries = some (r.entry time)) (now : String) :
    r.record now entries = .ok entries := by
  induction entries with
  | nil => cases h
  | cons entry rest ih =>
    obtain ⟨⟨fields, rfl⟩, others⟩ := List.forall_mem_cons.mp shaped
    rw [find_cons] at h
    rw [Report.record_cons plain]
    split at h
    next typed =>
      rw [Option.some.inj h, if_pos (get?_entry_type r time), since_entry]
    next other =>
      rw [if_neg other, ih others h]
      rfl

/-- A report adds its type at the end, unless there is an entry of it. -/
theorem Report.map_type_record (plain : r.Plain) (shaped : Entries entries)
    (h : r.record now entries = .ok after) :
    after.map (·.get? "type") =
      if some r.type ∈ entries.map (·.get? "type") then entries.map (·.get? "type")
      else entries.map (·.get? "type") ++ [some r.type] := by
  induction entries generalizing after with
  | nil =>
    cases h
    rfl
  | cons entry rest ih =>
    obtain ⟨⟨fields, rfl⟩, others⟩ := List.forall_mem_cons.mp shaped
    rw [Report.record_cons plain] at h
    split at h
    next same =>
      cases h
      simp [get?_entry_type, same]
    next other =>
      cases recorded : r.record now rest with
      | error fault => rw [recorded] at h; cases h
      | ok middle =>
        rw [recorded] at h
        cases h
        rw [List.map_cons, List.map_cons, ih others recorded]
        by_cases mem : some r.type ∈ rest.map (·.get? "type") <;> simp [mem, Ne.symm other]

theorem Report.types_record {types : List Json} (plain : r.Plain) (shaped : Entries entries)
    (h : r.record now entries = .ok after)
    (typed : entries.map (·.get? "type") = types.map some) :
    after.map (·.get? "type") =
      (if r.type ∈ types then types else types ++ [r.type]).map some := by
  rw [Report.map_type_record plain shaped h, typed]
  by_cases mem : r.type ∈ types <;> simp [mem]

/-- An entry of another type stays in its place. -/
theorem Report.getElem?_record (plain : r.Plain) (shaped : Entries entries)
    (h : r.record now entries = .ok after) {i : Nat} {entry : Json} (there : entries[i]? = some entry)
    (other : entry.get? "type" ≠ some r.type) : after[i]? = some entry := by
  induction entries generalizing after i with
  | nil => cases there
  | cons first rest ih =>
    obtain ⟨⟨fields, rfl⟩, others⟩ := List.forall_mem_cons.mp shaped
    rw [Report.record_cons plain] at h
    split at h
    next same =>
      cases h
      cases i with
      | zero =>
        cases there
        exact absurd same other
      | succ i => exact there
    next =>
      cases recorded : r.record now rest with
      | error fault => rw [recorded] at h; cases h
      | ok middle =>
        rw [recorded] at h
        cases h
        cases i with
        | zero => exact there
        | succ i => exact ih others recorded there

/-- The reports are plain, and no two of them are on the same type. -/
structure Separate (reports : List Report) : Prop where
  plain : ∀ r ∈ reports, r.Plain
  distinct : (reports.map Report.type).Nodup

variable {times : Json → String} {reports : List Report}

theorem Separate.tail (h : Separate (r :: reports)) : Separate reports :=
  ⟨fun other mem => h.plain other (List.mem_cons_of_mem _ mem), (List.nodup_cons.mp h.distinct).2⟩

theorem recordAll_cons (h : recordAll times (r :: reports) entries = .ok after) :
    ∃ middle, r.record (times r.type) entries = .ok middle ∧
      recordAll times reports middle = .ok after := by
  rw [recordAll, List.foldlM_cons] at h
  cases first : r.record (times r.type) entries with
  | ok middle => exact ⟨middle, rfl, by rwa [first] at h⟩
  | error fault => rw [first] at h; cases h

theorem mem_recordAll (h : recordAll times reports entries = .ok after) :
    ∀ entry ∈ after, entry ∈ entries ∨ ∃ r ∈ reports, ∃ time, entry = r.entry time := by
  induction reports generalizing entries with
  | nil =>
    cases h
    exact fun entry mem => Or.inl mem
  | cons r rest ih =>
    obtain ⟨middle, first, others⟩ := recordAll_cons h
    intro entry mem
    rcases ih others entry mem with mem | ⟨other, mem, made⟩
    · rcases Report.mem_record first entry mem with mem | made
      · exact Or.inl mem
      · exact Or.inr ⟨r, List.mem_cons_self, made⟩
    · exact Or.inr ⟨other, List.mem_cons_of_mem _ mem, made⟩

theorem Report.entries_of_record (shaped : Entries entries) (h : r.record now entries = .ok after) :
    Entries after := by
  obtain ⟨other, same, entries'⟩ := r.record_entries now shaped
  cases same.symm.trans h
  exact entries'

theorem find_recordAll_of_not_mem (separate : Separate reports) (shaped : Entries entries)
    (h : recordAll times reports entries = .ok after) {type : Json}
    (absent : type ∉ reports.map Report.type) : find type after = find type entries := by
  induction reports generalizing entries with
  | nil => cases h; rfl
  | cons r rest ih =>
    obtain ⟨middle, first, others⟩ := recordAll_cons h
    have plain := separate.plain r List.mem_cons_self
    have ne : type ≠ r.type := fun eq => absent (by simp [eq])
    have further : type ∉ rest.map Report.type := fun mem => absent (List.mem_cons_of_mem _ mem)
    rw [ih separate.tail (Report.entries_of_record shaped first) others further,
      Report.find_record plain shaped first, if_neg ne]

/-- After several reports the conditions are what the reports say. -/
theorem find_recordAll (separate : Separate reports) (shaped : Entries entries)
    (h : recordAll times reports entries = .ok after) :
    ∀ r ∈ reports,
      find r.type after = some (r.entry (r.since (times r.type) (find r.type entries))) := by
  induction reports generalizing entries with
  | nil => simp
  | cons r rest ih =>
    obtain ⟨middle, first, others⟩ := recordAll_cons h
    have plain := separate.plain r List.mem_cons_self
    have shaped' := Report.entries_of_record shaped first
    obtain ⟨absent, _⟩ := List.nodup_cons.mp separate.distinct
    intro other mem
    rcases List.mem_cons.mp mem with rfl | mem
    · rw [find_recordAll_of_not_mem separate.tail shaped' others absent,
        Report.find_record plain shaped first, if_pos rfl]
    · have ne : other.type ≠ r.type := fun eq => absent (eq ▸ List.mem_map_of_mem mem)
      rw [ih separate.tail shaped' others other mem, Report.find_record plain shaped first, if_neg ne]

theorem recordAll_of_find (plain : ∀ r ∈ reports, r.Plain) (shaped : Entries entries)
    (h : ∀ r ∈ reports, ∃ time, find r.type entries = some (r.entry time))
    (times : Json → String) :
    recordAll times reports entries = .ok entries := by
  induction reports with
  | nil => rfl
  | cons r rest ih =>
    obtain ⟨first, others⟩ := List.forall_mem_cons.mp plain
    obtain ⟨⟨time, found⟩, further⟩ := List.forall_mem_cons.mp h
    rw [recordAll, List.foldlM_cons, Report.record_of_find first shaped found]
    exact ih others further

/-- The same reports once more, at whatever times, change nothing. -/
theorem recordAll_again (separate : Separate reports) (shaped : Entries entries)
    (h : recordAll times reports entries = .ok after) (later : Json → String) :
    recordAll later reports after = .ok after := by
  obtain ⟨other, same, shaped'⟩ := recordAll_entries times reports shaped
  cases same.symm.trans h
  exact recordAll_of_find separate.plain shaped'
    (fun r mem => ⟨_, find_recordAll separate shaped h r mem⟩) later

/-- Conditions of distinct types, all of them known, stay so under reports on known types. -/
theorem types_recordAll {known types : List Json} (separate : Separate reports)
    (shaped : Entries entries) (h : recordAll times reports entries = .ok after)
    (typed : entries.map (·.get? "type") = types.map some) (distinct : types.Nodup)
    (old : types ⊆ known) (new : reports.map Report.type ⊆ known) :
    ∃ types', after.map (·.get? "type") = types'.map some ∧ types'.Nodup ∧ types' ⊆ known := by
  induction reports generalizing entries types with
  | nil =>
    cases h
    exact ⟨types, typed, distinct, old⟩
  | cons r rest ih =>
    obtain ⟨middle, first, others⟩ := recordAll_cons h
    obtain ⟨here, there⟩ := List.cons_subset.mp new
    have typed' :=
      Report.types_record (separate.plain r List.mem_cons_self) shaped first typed
    refine ih separate.tail (Report.entries_of_record shaped first) others typed' ?_ ?_ there
    · split
      next => exact distinct
      next absent =>
        refine List.nodup_append.mpr ⟨distinct, by simp, ?_⟩
        intro type mem other mem' eq
        rw [List.mem_singleton.mp mem'] at eq
        exact absent (eq ▸ mem)
    · split
      next => exact old
      next => exact List.append_subset.mpr ⟨old, List.cons_subset.mpr ⟨here, List.nil_subset _⟩⟩

end StorageController.Condition
