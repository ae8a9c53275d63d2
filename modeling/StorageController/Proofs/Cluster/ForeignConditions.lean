import StorageController.Proofs.Cluster.Responsive
import StorageController.Proofs.Cluster.StatusCoherence

namespace StorageController

open Json Condition

variable {δ σ : Type} {answer : Request → σ → Reply × σ}
  {storage? set? : σ → Identity → Option Json} {others : σ → σ → Prop} {resource : Json}

section

variable [Redaction.VisitingOrder]

theorem InvalidStatus.foreign {clock : Clock} {fault : Fault} {status current stored type : Json}
    (written : InvalidStatus clock resource fault status) (owned : StorageShaped resource)
    (change : StatusWritten current status stored) (foreign : type ∉ knownTypes) :
    Condition.find type (conditionsIn stored) = Condition.find type (conditionsIn resource) := by
  obtain ⟨conditions, recorded, rfl⟩ := written
  rw [change.conditions (by simp) rfl]
  refine find_recordAll_of_not_mem (invalidReports_separate _ _) owned.entries recorded ?_
  simp only [knownTypes, List.mem_cons, List.not_mem_nil, or_false, not_or] at foreign
  simp [invalidReports, specInvalid, Condition.ready, foreign]

theorem OutcomeStatus.foreign {clock : Clock} {t : Topology} {applied : Applied}
    {status current stored type : Json} (written : OutcomeStatus clock resource t applied status)
    (owned : StorageShaped resource) (change : StatusWritten current status stored)
    (foreign : type ∉ knownTypes) :
    Condition.find type (conditionsIn stored) = Condition.find type (conditionsIn resource) := by
  obtain ⟨counted, reports, conditions, _, reported, recorded, rfl⟩ := written
  rw [change.conditions (by simp) rfl]
  refine find_recordAll_of_not_mem reported.separate owned.entries recorded ?_
  simp only [knownTypes, List.mem_cons, List.not_mem_nil, or_false, not_or] at foreign
  simp [reported.types, foreign]

theorem Written.foreign {clock : Clock} {applying : List Exchange} {status current stored type : Json}
    (written : Written clock resource applying status) (owned : StorageShaped resource)
    (change : StatusWritten current status stored) (foreign : type ∉ knownTypes) :
    Condition.find type (conditionsIn stored) = Condition.find type (conditionsIn resource) := by
  cases written with
  | malformed _ _ invalid => exact invalid.foreign owned change foreign
  | reported _ _ _ outcome => exact outcome.foreign owned change foreign

/-- What a pass writes to the status was made from the resource that it read first. -/
theorem Pass.Ends.read_of_status {s : Settings δ} {ns name place called status : Json} {reply : Reply}
    {c after : Context} {tr : List Exchange} {outcome : Except Fault (Directive δ)}
    (ends : (Pass.reconcile s ns name).Ends c tr outcome after)
    (shaped : ∀ resource, ⟨.readStorage ns name, .ok resource⟩ ∈ tr → StorageShaped resource)
    (mem : ⟨.patchStatus place called status, reply⟩ ∈ tr) :
    ∃ resource rest front, tr = ⟨.readStorage ns name, .ok resource⟩ :: rest ∧
      StorageShaped resource ∧ Written c.clock resource front status := by
  obtain ⟨first, rest, rfl, failed, course⟩ := ends.course_of_reconcile
  have inRest : ⟨.patchStatus place called status, reply⟩ ∈ rest := by simpa using mem
  cases first with
  | error fault => simp [failed fault rfl] at inRest
  | ok resource =>
    have owned := shaped resource List.mem_cons_self
    obtain ⟨front, tail, rfl⟩ := List.append_of_mem inRest
    obtain ⟨other, same, written, _⟩ :=
      (course resource rfl owned).written_of_status ⟨place, called, status, rfl⟩
    cases same
    exact ⟨resource, _, front, rfl, owned, written⟩

/-- Whatever others do while a pass runs, once it has stored a status every condition of another type
is the one that the pass had read: it is kept exactly if nobody had changed it since. -/
theorem foreign_conditions_of_read {s : Settings δ} {ns name : Json} {c after : Context}
    {s₀ last : σ} {turns : List (Turn σ)} {outcome : Except Fault (Directive δ)}
    (server : Responsive answer storage? set?) (run : Turns answer others s₀ turns last)
    (ends : (Pass.reconcile s ns name).Ends c (turns.map Turn.exchange) outcome after)
    (shaped : ∀ turn ∈ turns, ∀ resource,
      turn.exchange = ⟨.readStorage ns name, .ok resource⟩ → StorageShaped resource) :
    ∀ write ∈ turns, ∀ place called status reply,
      write.exchange = ⟨.patchStatus place called status, .ok reply⟩ →
      ∃ read ∈ turns, ∃ resource current stored,
        read.exchange = ⟨.readStorage ns name, .ok resource⟩ ∧
        storage? read.before ⟨ns, name⟩ = some resource ∧
        storage? write.before ⟨place, called⟩ = some current ∧
        storage? write.after ⟨place, called⟩ = some stored ∧
        ∀ type, type ∉ knownTypes →
          Condition.find type (conditionsIn stored) = Condition.find type (conditionsIn resource) ∧
          (Condition.find type (conditionsIn stored) = Condition.find type (conditionsIn current) ↔
            Condition.find type (conditionsIn current) =
              Condition.find type (conditionsIn resource)) := by
  intro write mem place called status reply eq
  have asked : ⟨.patchStatus place called status, .ok reply⟩ ∈ turns.map Turn.exchange :=
    eq ▸ List.mem_map_of_mem mem
  have shaped' : ∀ resource, ⟨.readStorage ns name, .ok resource⟩ ∈ turns.map Turn.exchange →
      StorageShaped resource := by
    intro resource inside
    obtain ⟨turn, ht, same⟩ := List.mem_map.mp inside
    exact shaped turn ht resource same
  obtain ⟨resource, rest, front, first, owned, written⟩ := ends.read_of_status shaped' asked
  obtain ⟨b₀, later, _, delivered, turns_eq, _, _⟩ := run.uncons first
  have answered := run.of_mem write mem
  rw [eq] at answered
  have accepted : (answer (.patchStatus place called status) write.before).1 = .ok reply := by
    have same := congrArg Turn.exchange answered
    rw [eq] at same
    exact (congrArg Exchange.reply same).symm
  obtain ⟨current, stored, there, change, recorded, _⟩ :=
    server.status place called status write.before reply accepted
  refine ⟨Turn.of answer (.readStorage ns name) b₀, by simp [turns_eq], resource, current, stored,
    ?_, server.readStorage ns name b₀ resource delivered, there, ?_, ?_⟩
  · rw [Turn.of, delivered]
  · rw [answered]
    exact recorded
  · intro type foreign
    have kept := written.foreign owned change foreign
    rw [kept]
    exact ⟨rfl, eq_comm⟩

end

namespace Overtaken

def settings : Settings Nat :=
  ⟨8080, 30, 4, 1, 60, 2, 5, 300, ""⟩

def identity : Identity :=
  ⟨"swift", "storage"⟩

def start : Store :=
  ⟨[(identity, .obj [("metadata", .obj [("namespace", "swift"), ("name", "storage")])])], [], 0⟩

def paused : Json :=
  .obj [("type", "Paused"), ("status", "True")]

def pause : Store.Act :=
  .editStorage identity [⟨[.field "status"], some (.obj [("conditions", .arr [paused])])⟩]

/-- The state in which the status is written: the StatefulSet is there, and so is the condition. -/
def overtaken (body : Json) : Store :=
  (Store.answer (.createSet "swift" body) start).2.after pause

def write (body status : Json) : Turn Store :=
  Turn.of Store.answer (.patchStatus "swift" "storage" status) (overtaken body)

/-- The turns of a pass; the condition is added before the last of them. -/
def turns (body status : Json) : List (Turn Store) :=
  [Turn.of Store.answer (.readStorage "swift" "storage") start,
   Turn.of Store.answer (.readSet "swift" "storage") start,
   Turn.of Store.answer (.createSet "swift" body) start, write body status]

theorem run (body status : Json) :
    Turns Store.answer (fun s s' => s' = s ∨ s' = s.after pause) start (turns body status)
      (write body status).after :=
  .turn (.inl rfl) (.turn (.inl rfl) (.turn (.inl rfl) (.turn (.inr rfl) (.done (.inl rfl)))))

open Redaction.TokenFirst in
theorem exists_ends :
    ∃ body status after stored,
      (Pass.reconcile settings "swift" "storage").Ends ⟨0, {}, .off, [], []⟩
        ((turns body status).map Turn.exchange) (.ok .done) after ∧
      (write body status).after.storage? identity = some stored ∧
      Condition.find "Paused" (conditionsIn stored) = none := by
  -- The reply to the last request depends on the status, which is only known once it is asked for.
  obtain ⟨body, status, after, ends, stored, there, lost⟩ : ∃ body status after, (∀ object,
      (Pass.reconcile settings "swift" "storage").Ends ⟨0, {}, .off, [], []⟩
        [(Turn.of Store.answer (.readStorage "swift" "storage") start).exchange,
          (Turn.of Store.answer (.readSet "swift" "storage") start).exchange,
          (Turn.of Store.answer (.createSet "swift" body) start).exchange,
          ⟨.patchStatus "swift" "storage" status, .ok object⟩] (.ok .done) after) ∧
      ∃ stored, (write body status).after.storage? identity = some stored ∧
        Condition.find "Paused" (conditionsIn stored) = none :=
    ⟨_, _, _, fun _ => .call (.call (.call (.call (.ret _)))), _, rfl, rfl⟩
  exact ⟨body, status, after, stored, ends _, there, lost⟩

end Overtaken

open Overtaken Redaction.TokenFirst in
/-- The pass had read no condition, and so none of others is there after it. -/
theorem foreign_conditions_of_read_overtaken :
    ∃ body status stored after,
      (Pass.reconcile settings "swift" "storage").Ends ⟨0, {}, .off, [], []⟩
        ((turns body status).map Turn.exchange) (.ok .done) after ∧
      (write body status).after.storage? identity = some stored ∧
      ∀ type, type ∉ knownTypes → Condition.find type (conditionsIn stored) = none := by
  obtain ⟨body, status, after, _, ends, _⟩ := exists_ends
  have shaped : ∀ turn ∈ turns body status, ∀ resource,
      turn.exchange = ⟨.readStorage "swift" "storage", .ok resource⟩ → StorageShaped resource := by
    simp only [turns, List.forall_mem_cons]
    refine ⟨?_, by rintro _ ⟨⟩, by rintro _ ⟨⟩, by rintro _ ⟨⟩, by simp⟩
    rintro _ ⟨⟩
    refine ⟨⟨_, rfl⟩, ?_⟩
    rintro _ ⟨⟩
  obtain ⟨read, mem, resource, current, stored, eq, _, _, there, kept⟩ :=
    foreign_conditions_of_read Store.responsive (run body status) ends shaped
      (write body status) (by simp [turns]) "swift" "storage" status _ rfl
  refine ⟨body, status, stored, after, ends, there, ?_⟩
  intro type foreign
  have bare : conditionsIn resource = [] := by
    simp only [turns, List.mem_cons, List.not_mem_nil, or_false] at mem
    rcases mem with rfl | rfl | rfl | rfl <;> cases eq
    rfl
  rw [(kept type foreign).1, bare]
  rfl

open Overtaken Redaction.TokenFirst in
/-- The condition that stands when the pass writes the status does not stand after it. -/
theorem foreign_conditions_lost :
    ∃ body status after current stored,
      Turns Store.answer (fun s s' => s' = s ∨ s' = s.after pause) start (turns body status)
        (write body status).after ∧
      (Pass.reconcile settings "swift" "storage").Ends ⟨0, {}, .off, [], []⟩
        ((turns body status).map Turn.exchange) (.ok .done) after ∧
      Json.str "Paused" ∉ knownTypes ∧ (write body status).before.storage? identity = some current ∧
      Condition.find "Paused" (conditionsIn current) = some paused ∧
      (write body status).after.storage? identity = some stored ∧
      Condition.find "Paused" (conditionsIn stored) = none := by
  obtain ⟨body, status, after, stored, ends, there, lost⟩ := exists_ends
  exact ⟨body, status, after, _, stored, run body status, ends, by decide, rfl, rfl, there, lost⟩

end StorageController
