import Mathlib.Data.List.Nodup
import StorageController.Proofs.Condition

namespace StorageController.Condition

open Json

/-- What is said about the condition of a type, and when. -/
structure Update where
  type : String
  status : String
  reason : Json
  message : Json
  generation : Json
  clock : String

def Update.report (u : Update) : Report where
  type := u.type
  status := u.status
  reason := u.reason
  message := u.message
  generation := u.generation

/-- The conditions after updates, one after the other. -/
def updateAll (updates : List Update) (conditions : Json) : Except Fault Json :=
  updates.foldlM (fun conditions u => u.report.update u.clock conditions) conditions

def updatesOf (type : String) (updates : List Update) : List Update :=
  updates.filter fun u => u.type = type

/-- The types of the entries, in order. -/
def typesOf (entries : List Json) : List (Option Json) :=
  entries.map (·.get? "type")

/-- The types of updates that no entry has, in the order of their first use. -/
def newTypes (entries : List Json) (updates : List Update) : List String :=
  (updates.map Update.type).eraseDups.filter fun type =>
    some (.str type) ∉ typesOf entries

/-- Updates with one status, after earlier ones. -/
structure Block where
  earlier : List Update
  first : Update
  rest : List Update

def Block.last (b : Block) : Update :=
  b.rest.getLast?.getD b.first

/-- The block is the longest one of one status at the end of the updates. -/
structure Block.Final (b : Block) (updates : List Update) : Prop where
  split : updates = b.earlier ++ b.first :: b.rest
  constant : ∀ u ∈ b.rest, u.status = b.first.status
  longest : ∀ u, b.earlier.getLast? = some u → u.status ≠ b.first.status

/-- Since when the status of a block is given: since the first update, or for as long as by the
starting entry that the block reaches back to, if this has the status already. -/
inductive Block.Since (b : Block) (starting : Option Json) : Json → Prop
  | entry {entry time : Json} (reaches : b.earlier = []) (there : starting = some entry)
      (same : entry.get? "status" = some (.str b.first.status))
      (since : entry.get? "lastTransitionTime" = some time) : Since b starting time
  | update (changed : b.earlier = [] → ∀ entry, starting = some entry →
      entry.get? "status" ≠ some (.str b.first.status)) : Since b starting (.str b.first.clock)

/-- An entry says what an update says, since a time. -/
structure Update.Stands (u : Update) (time entry : Json) : Prop where
  type : entry.get? "type" = some (.str u.type)
  status : entry.get? "status" = some (.str u.status)
  reason : entry.get? "reason" = some u.reason
  message : entry.get? "message" = some u.message
  generation : entry.get? "observedGeneration" =
    if u.generation = .null then none else some u.generation
  time : entry.get? "lastTransitionTime" = some time

/-- The entry of a type follows from the updates of this type. -/
structure Follows (updates : List Update) (starting standing : Option Json) : Prop where
  kept : updates = [] → standing = starting
  updated : updates ≠ [] → ∃ (b : Block) (time entry : Json), b.Final updates ∧
    b.Since starting time ∧ standing = some entry ∧ b.last.Stands time entry

/-- What the entries are after updates. -/
structure Replayed (entries : List Json) (updates : List Update) (after : List Json) : Prop where
  types : typesOf after = typesOf entries ++
    (newTypes entries updates).map fun type => some (.str type)
  distinct : (typesOf after).Nodup
  untouched : ∀ (i : Nat) (entry : Json), entries[i]? = some entry →
    (∀ u ∈ updates, entry.get? "type" ≠ some (.str u.type)) → after[i]? = some entry
  each : ∀ type, Follows (updatesOf type updates) (find (.str type) entries) (find (.str type) after)

variable {entries before after : List Json} {updates : List Update} {u : Update}

theorem Update.plain (u : Update) : u.report.Plain :=
  ⟨⟨u.type, rfl⟩, ⟨u.status, rfl⟩⟩

theorem Update.stands (u : Update) (time : Json) : u.Stands time (u.report.entry time) where
  type := rfl
  status := rfl
  reason := rfl
  message := rfl
  generation := by
    by_cases none : u.generation = .null <;>
      simp [report, Report.entry, get?, List.lookup_cons, none]
  time := rfl

theorem Update.Stands.since {time entry : Json} (h : u.Stands time entry) (v : Update) :
    v.report.since v.clock (some entry) = if u.status = v.status then time else .str v.clock := by
  rw [Report.since, h.status, h.time]
  simp [report]

theorem Block.Final.last_status {b : Block} (h : b.Final updates) :
    b.last.status = b.first.status := by
  rw [Block.last]
  cases last : b.rest.getLast? with
  | none => rfl
  | some u => exact h.constant u (List.mem_of_getLast? last)

theorem Block.getLast?_append (b : Block) :
    (b.earlier ++ b.first :: b.rest).getLast? = some b.last := by
  rw [List.getLast?_append, List.getLast?_cons, Option.some_or]
  rfl

/-- The block with one update more. -/
def Block.extend (b : Block) (u : Update) : Block :=
  { b with rest := b.rest ++ [u] }

/-- An update of its own, after a block. -/
def Block.next (b : Block) (u : Update) : Block :=
  ⟨b.earlier ++ b.first :: b.rest, u, []⟩

theorem Block.last_extend (b : Block) (u : Update) : (b.extend u).last = u := by
  simp [Block.extend, Block.last]

theorem Block.Final.extend {b : Block} (h : b.Final updates) (same : b.last.status = u.status) :
    (b.extend u).Final (updates ++ [u]) where
  split := by
    rw [h.split]
    simp [Block.extend]
  constant := by
    have last : u.status = b.first.status := same.symm.trans h.last_status
    exact List.forall_mem_append.mpr ⟨h.constant, List.forall_mem_singleton.mpr last⟩
  longest := h.longest

theorem Block.Final.next {b : Block} (h : b.Final updates) (other : b.last.status ≠ u.status) :
    (b.next u).Final (updates ++ [u]) where
  split := by
    rw [h.split]
    rfl
  constant := by simp [Block.next]
  longest := by
    intro v last
    cases (b.getLast?_append).symm.trans last
    exact other

theorem Block.Since.extend {b : Block} {starting : Option Json} {time : Json}
    (h : b.Since starting time) (u : Update) : (b.extend u).Since starting time := by
  cases h with
  | entry reaches there same since => exact .entry reaches there same since
  | update changed => exact .update changed

/-- The block of one update. -/
def Block.alone (u : Update) : Block :=
  ⟨[], u, []⟩

theorem Block.final_alone (u : Update) : (Block.alone u).Final [u] where
  split := rfl
  constant := by simp [Block.alone]
  longest := by simp [Block.alone]

theorem Block.since_alone {starting : Option Json} (u : Update)
    (timed : ∀ entry, starting = some entry → ∃ time, entry.get? "lastTransitionTime" = some time) :
    (Block.alone u).Since starting (u.report.since u.clock starting) := by
  cases starting with
  | none => exact .update (by simp)
  | some entry =>
    by_cases same : entry.get? "status" = some (.str u.status)
    · obtain ⟨time, there⟩ := timed entry rfl
      have kept : u.report.since u.clock (some entry) = time := by
        refine (if_pos same).trans ?_
        rw [there, Option.getD_some]
      rw [kept]
      exact .entry rfl rfl same there
    · have begun : u.report.since u.clock (some entry) = .str u.clock := if_neg same
      rw [begun]
      refine .update fun _ other there => ?_
      cases there
      exact same

/-- What an update makes of the entry of its type. -/
theorem Follows.step {starting standing : Option Json} (h : Follows updates starting standing)
    (timed : ∀ entry, starting = some entry → ∃ time, entry.get? "lastTransitionTime" = some time)
    (u : Update) :
    Follows (updates ++ [u]) starting
      (some (u.report.entry (u.report.since u.clock standing))) := by
  refine ⟨fun none => absurd none (by simp), fun _ => ?_⟩
  by_cases first : updates = []
  · rw [h.kept first, first]
    exact ⟨.alone u, _, _, Block.final_alone u, Block.since_alone u timed, rfl, u.stands _⟩
  · obtain ⟨b, time, entry, final, since, rfl, stands⟩ := h.updated first
    rw [stands.since]
    by_cases same : b.last.status = u.status
    · rw [if_pos same]
      refine ⟨b.extend u, time, _, final.extend same, since.extend u, rfl, ?_⟩
      rw [b.last_extend]
      exact u.stands time
    · rw [if_neg same]
      exact ⟨b.next u, _, _, final.next same, .update (by simp [Block.next]), rfl, u.stands _⟩

theorem updatesOf_append (type : String) (updates : List Update) (u : Update) :
    updatesOf type (updates ++ [u]) =
      if u.type = type then updatesOf type updates ++ [u] else updatesOf type updates := by
  rw [updatesOf, List.filter_append]
  by_cases same : u.type = type <;> simp [updatesOf, same]

theorem newTypes_append (entries : List Json) (updates : List Update) (u : Update) :
    newTypes entries (updates ++ [u]) =
      if some (.str u.type) ∈ typesOf entries ∨ u.type ∈ newTypes entries updates then
        newTypes entries updates
      else newTypes entries updates ++ [u.type] := by
  rw [newTypes, List.map_append, List.eraseDups_append, List.filter_append, ← newTypes]
  by_cases used : u.type ∈ updates.map Update.type
  · have nothing : [u.type].removeAll (updates.map Update.type) = [] := by
      simpa [List.removeAll] using used
    rw [List.map_singleton, nothing, if_pos]
    · exact List.append_nil _
    · by_cases old : some (Json.str u.type) ∈ typesOf entries
      · exact Or.inl old
      · exact Or.inr (List.mem_filter.mpr ⟨List.mem_eraseDups.mpr used, by simpa using old⟩)
  · have whole : [u.type].removeAll (updates.map Update.type) = [u.type] := by
      simpa [List.removeAll] using used
    have fresh : u.type ∉ newTypes entries updates := fun mem =>
      used (List.mem_eraseDups.mp (List.mem_filter.mp mem).1)
    rw [List.map_singleton, whole]
    by_cases old : some (Json.str u.type) ∈ typesOf entries <;>
      simp [old, fresh, List.eraseDups_cons]

theorem find_mem {type entry : Json} (h : find type entries = some entry) : entry ∈ entries :=
  List.mem_of_find?_eq_some h

theorem replayed_start (distinct : (typesOf entries).Nodup) : Replayed entries [] entries where
  types := by simp [newTypes]
  distinct := distinct
  untouched := fun i entry there _ => there
  each := fun type => ⟨fun _ => rfl, fun some => absurd rfl some⟩

/-- One update more. -/
theorem Replayed.step (h : Replayed entries updates before) (shaped : Entries before)
    (timed : ∀ entry ∈ entries, ∃ time, entry.get? "lastTransitionTime" = some time)
    (recorded : u.report.record u.clock before = .ok after) :
    Replayed entries (updates ++ [u]) after := by
  have types : typesOf after = if some (.str u.type) ∈ typesOf before then typesOf before
      else typesOf before ++ [some (.str u.type)] :=
    Report.map_type_record u.plain shaped recorded
  have known : some (.str u.type) ∈ typesOf before ↔
      some (.str u.type) ∈ typesOf entries ∨ u.type ∈ newTypes entries updates := by
    rw [h.types]
    simp
  constructor
  · rw [types, newTypes_append]
    by_cases old : some (.str u.type) ∈ typesOf before
    · rw [if_pos old, if_pos (known.mp old), h.types]
    · rw [if_neg old, if_neg (mt known.mpr old), h.types, List.map_append, List.append_assoc]
      rfl
  · rw [types]
    split
    next => exact h.distinct
    next absent =>
      rw [← List.concat_eq_append]
      exact List.Nodup.concat absent h.distinct
  · intro i entry there others
    have earlier := h.untouched i entry there fun v mem => others v (List.mem_append_left _ mem)
    exact Report.getElem?_record u.plain shaped recorded earlier (others u (by simp))
  · intro type
    rw [updatesOf_append, Report.find_record u.plain shaped recorded]
    by_cases same : u.type = type
    · subst same
      have own : Json.str u.type = u.report.type := rfl
      rw [if_pos rfl, if_pos own]
      exact (h.each u.type).step (fun entry found => timed entry (find_mem found)) u
    · have other : Json.str type ≠ u.report.type := fun eq => same (Json.str.inj eq).symm
      rw [if_neg same, if_neg other]
      exact h.each type

theorem Replayed.run (h : Replayed entries updates before) (shaped : Entries before)
    (timed : ∀ entry ∈ entries, ∃ time, entry.get? "lastTransitionTime" = some time)
    (more : List Update) :
    ∃ after, updateAll more (.arr before) = .ok (.arr after) ∧
      Replayed entries (updates ++ more) after := by
  induction more generalizing updates before with
  | nil => exact ⟨before, rfl, by rwa [List.append_nil]⟩
  | cons u more ih =>
    obtain ⟨middle, recorded, shaped'⟩ := u.report.record_entries u.clock shaped
    obtain ⟨after, further, replayed⟩ := ih (h.step shaped timed recorded) shaped'
    refine ⟨after, ?_, by rwa [List.append_assoc] at replayed⟩
    have first : u.report.update u.clock (.arr before) = .ok (.arr middle) := by
      rw [Report.update, recorded]
      rfl
    rw [updateAll, List.foldlM_cons, first]
    exact further

/-- Updates of conditions of distinct types, all with the time of their last transition, never fail.
They add the new types in the order of their first use, and what stands under a type afterwards
follows from the updates of this type alone. -/
theorem conditions_replayed (shaped : Entries entries) (distinct : (typesOf entries).Nodup)
    (timed : ∀ entry ∈ entries, ∃ time, entry.get? "lastTransitionTime" = some time)
    (updates : List Update) :
    ∃ after, updateAll updates (.arr entries) = .ok (.arr after) ∧
      Replayed entries updates after :=
  (replayed_start distinct).run shaped timed updates

/-- A condition keeps its time for as long as its status stays the same, whatever else is said between
the updates; one that changes takes the time of the change. -/
theorem conditions_replayed_interleaved :
    let entries : List Json :=
      [.obj [("type", "Ready"), ("status", "False"), ("lastTransitionTime", "09:00")],
       .obj [("type", "Paused"), ("status", "True"), ("lastTransitionTime", "09:05")]]
    let updates : List Update :=
      [⟨"Ready", "False", "NotReady", "0/3", .int 1, "10:00"⟩,
       ⟨"ApplyFailed", "True", "ApplyFailed", "refused", .int 1, "10:00"⟩,
       ⟨"Ready", "False", "NotReady", "1/3", .int 2, "10:01"⟩,
       ⟨"ApplyFailed", "False", "Applied", "", .int 2, "10:01"⟩,
       ⟨"ApplyFailed", "False", "Applied", "", .null, "10:02"⟩]
    Entries entries ∧ (typesOf entries).Nodup ∧
      (∀ entry ∈ entries, ∃ time, entry.get? "lastTransitionTime" = some time) ∧
      ∃ after, updateAll updates (.arr entries) = .ok (.arr after) ∧
        Replayed entries updates after ∧
        after =
          [.obj [("type", "Ready"), ("status", "False"), ("reason", "NotReady"),
            ("message", "1/3"), ("lastTransitionTime", "09:00"), ("observedGeneration", .int 2)],
           .obj [("type", "Paused"), ("status", "True"), ("lastTransitionTime", "09:05")],
           .obj [("type", "ApplyFailed"), ("status", "False"), ("reason", "Applied"),
            ("message", ""), ("lastTransitionTime", "10:01")]] := by
  intro entries updates
  have shaped : Entries entries := by simp [Entries, entries]
  have distinct : (typesOf entries).Nodup := by decide
  have timed : ∀ entry ∈ entries, ∃ time, entry.get? "lastTransitionTime" = some time :=
    List.forall_mem_cons.mpr ⟨⟨_, rfl⟩, List.forall_mem_singleton.mpr ⟨_, rfl⟩⟩
  obtain ⟨after, ran, replayed⟩ := conditions_replayed shaped distinct timed updates
  refine ⟨shaped, distinct, timed, after, ran, replayed, ?_⟩
  exact (Json.arr.inj (Except.ok.inj (ran.symm.trans rfl)))

end StorageController.Condition
