import StorageController.Proofs.Pass.Asks

namespace StorageController

open Condition

variable {δ : Type}

variable [Redaction.VisitingOrder]

/-- The status that a pass writes, with the exchanges of applying before it. -/
inductive Written (clock : Clock) (resource : Json) : List Exchange → Json → Prop
  | malformed {status : Json} {message : String} (staying : deleting resource = false)
      (rejected : Topology.ofResource resource = .error (.invalid message))
      (written : InvalidStatus clock resource (.invalid message) status) :
      Written clock resource [] status
  | reported {t : Topology} {applying : List Exchange} {applied : Applied} {status : Json}
      (staying : deleting resource = false) (accepted : Topology.ofResource resource = .ok t)
      (way : Application t resource applying (.ok applied))
      (written : OutcomeStatus clock resource t applied status) :
      Written clock resource applying status

/-- The exchanges of a pass after a resource was read. -/
inductive Course (clock : Clock) (resource : Json) : List Exchange → Prop
  | deleting (leaving : deleting resource = true) : Course clock resource []
  | silent {t : Topology} {applying : List Exchange} {applied : Except Fault Applied}
      (accepted : Topology.ofResource resource = .ok t)
      (way : Application t resource applying applied)
      (unwritten : ∀ a clock status, applied = .ok a → ¬ OutcomeStatus clock resource t a status) :
      Course clock resource applying
  | written {applying : List Exchange} {status : Json} {reply : Reply}
      (written : Written clock resource applying status) :
      Course clock resource (applying ++ [⟨statusRequest resource status, reply⟩])

omit [Redaction.VisitingOrder] in
theorem Application.not_status {t : Topology} {owner : Json} {tr : List Exchange}
    {applied : Except Fault Applied} (way : Application t owner tr applied) :
    ∀ e ∈ tr, ¬ e.request.IsStatus := by
  cases way <;> simp [Request.IsStatus]

theorem Written.not_status {clock : Clock} {resource status : Json} {applying : List Exchange}
    (h : Written clock resource applying status) : ∀ e ∈ applying, ¬ e.request.IsStatus := by
  cases h with
  | malformed => simp
  | reported _ _ way _ => exact way.not_status

omit [Redaction.VisitingOrder] in
/-- Where only the last of a list can be of a kind, what is of the kind is the last. -/
theorem eq_last_of_append {α : Type} {P : α → Prop} {front tail list : List α} {a last : α}
    (eq : front ++ a :: tail = list ++ [last]) (none : ∀ b ∈ list, ¬ P b) (h : P a) :
    front = list ∧ a = last ∧ tail = [] := by
  induction list generalizing front with
  | nil =>
    cases front with
    | nil =>
      obtain ⟨same, rest⟩ := List.cons.inj eq
      exact ⟨rfl, same, rest⟩
    | cons b front => simp at eq
  | cons b list ih =>
    obtain ⟨first, others⟩ := List.forall_mem_cons.mp none
    cases front with
    | nil =>
      obtain ⟨rfl, _⟩ := List.cons.inj eq
      exact absurd h first
    | cons b' front =>
      obtain ⟨rfl, rest⟩ := List.cons.inj eq
      obtain ⟨rfl, same, nothing⟩ := ih rest others
      exact ⟨rfl, same, nothing⟩

/-- A status is written last, and what it says is determined by what was read and applied. -/
theorem Course.written_of_status {clock : Clock} {resource : Json} {front tail : List Exchange}
    {e : Exchange} (h : Course clock resource (front ++ e :: tail)) (asked : e.request.IsStatus) :
    ∃ status, e.request = statusRequest resource status ∧ Written clock resource front status ∧
      tail = [] := by
  generalize eq : front ++ e :: tail = tr at h
  cases h with
  | deleting => simp at eq
  | silent _ way _ =>
    subst eq
    exact absurd asked (way.not_status e (by simp))
  | written written =>
    obtain ⟨rfl, rfl, nothing⟩ :=
      eq_last_of_append (P := fun e => e.request.IsStatus) eq written.not_status asked
    exact ⟨_, rfl, written, nothing⟩

theorem Course.written_of_asked {clock : Clock} {resource : Json} {tr : List Exchange}
    (h : Course clock resource tr) (asked : ∃ e ∈ tr, e.request.IsStatus) :
    ∃ front status reply, tr = front ++ [⟨statusRequest resource status, reply⟩] ∧
      Written clock resource front status := by
  obtain ⟨⟨request, reply⟩, mem, asked⟩ := asked
  obtain ⟨front, tail, rfl⟩ := List.append_of_mem mem
  obtain ⟨status, rfl, written, rfl⟩ := h.written_of_status asked
  exact ⟨front, status, reply, rfl, written⟩

theorem reports_of_conflicted {t : Topology} {counted : Json} {fault : Fault}
    {attempt : Option (Json × Json)} {reports : List Condition.Report} :
    ¬ (Applied.conflicted fault attempt).Reports t counted reports := by
  intro reported
  cases reported with
  | applied well enough => cases well

theorem Applied.Reports.unique {t : Topology} {counted : Json} {applied : Applied}
    {reports others : List Condition.Report} (h : applied.Reports t counted reports)
    (h' : applied.Reports t counted others) : reports = others := by
  cases h with
  | failed =>
    cases h' with
    | failed => rfl
    | applied well _ => cases well
  | applied well enough =>
    cases h' with
    | failed => cases well
    | applied _ enough' =>
      cases enough.symm.trans enough'
      rfl

theorem OutcomeStatus.unique {clock : Clock} {resource status other : Json} {t : Topology}
    {applied : Applied} (h : OutcomeStatus clock resource t applied status)
    (h' : OutcomeStatus clock resource t applied other) : status = other := by
  obtain ⟨counted, reports, conditions, count, reported, recorded, rfl⟩ := h
  obtain ⟨counted', reports', conditions', count', reported', recorded', rfl⟩ := h'
  cases count.symm.trans count'
  cases reported.unique reported'
  cases recorded.symm.trans recorded'
  rfl

omit [Redaction.VisitingOrder] in
theorem plain_statusOf (holds : Bool) : ∃ text, statusOf holds = .str text :=
  ⟨_, rfl⟩

theorem invalidReports_separate (fault : Fault) (generation : Json) :
    Separate (invalidReports fault generation) where
  plain := by
    simp only [invalidReports, List.forall_mem_cons]
    exact ⟨⟨⟨_, rfl⟩, plain_statusOf true⟩, ⟨⟨_, rfl⟩, plain_statusOf false⟩, by simp⟩
  distinct := by
    simp [invalidReports, specInvalid, Condition.ready, specInvalidType, readyType]

theorem Applied.Reports.types {t : Topology} {counted : Json} {applied : Applied}
    {reports : List Condition.Report} (h : applied.Reports t counted reports) :
    reports.map Report.type = [.str applyFailedType, .str readyType, .str specInvalidType] := by
  cases h <;> rfl

theorem Applied.Reports.separate {t : Topology} {counted : Json} {applied : Applied}
    {reports : List Condition.Report} (h : applied.Reports t counted reports) :
    Separate reports where
  plain := by
    cases h with
    | failed =>
      simp only [List.forall_mem_cons]
      exact ⟨⟨⟨_, rfl⟩, plain_statusOf true⟩, ⟨⟨_, rfl⟩, plain_statusOf false⟩,
        ⟨⟨_, rfl⟩, plain_statusOf false⟩, by simp⟩
    | @applied _ isReady _ _ =>
      simp only [List.forall_mem_cons]
      exact ⟨⟨⟨_, rfl⟩, plain_statusOf false⟩, ⟨⟨_, rfl⟩, plain_statusOf isReady⟩,
        ⟨⟨_, rfl⟩, plain_statusOf false⟩, by simp⟩
  distinct := by
    rw [h.types]
    simp [applyFailedType, readyType, specInvalidType]

namespace Pass

variable {c c' : Context} {tr : List Exchange} {resource : Json} {t : Topology}
  {applied : Applied}

/-- A status is written by one request, under the names in the metadata. -/
theorem Ends.asked_of_writeStatus_found {status : Json} {metadata : Fields}
    {directive : Directive δ} {outcome : Except Fault (Directive δ)}
    (found : metadataIn resource = .ok (.obj metadata))
    (h : Ends (writeStatus resource status directive) c tr outcome c') :
    ∃ reply, tr = [⟨.patchStatus ((metadata.lookup "namespace").getD "default")
      ((metadata.lookup "name").getD .null) status, reply⟩] := by
  replace h := h.of_ok_bind found
  replace h := h.of_ok_bind (lookupD_obj metadata "namespace" "default")
  replace h := h.of_ok_bind (lookupD_obj metadata "name" .null)
  obtain ⟨reply, rest, rfl, answered⟩ := h.of_ask_bind
  have nothing : rest = [] := by
    split at answered
    · exact Quiet.pure _ _ _ _ _ answered
    · exact (quiet_log _ _ _ _).bind (fun _ => Quiet.pure _) _ _ _ _ answered
    · split at answered
      · refine (Quiet.note _).bind (fun _ => (quiet_log _ _ _ _).bind fun _ => ?_) _ _ _ _ answered
        split <;> exact Quiet.pure _
      · exact Quiet.throw _ _ _ _ _ answered
  exact ⟨reply, by rw [nothing]⟩

theorem Ends.asked_of_writeStatus {status : Json} {directive : Directive δ}
    {outcome : Except Fault (Directive δ)} (shaped : StorageShaped resource)
    (h : Ends (writeStatus resource status directive) c tr outcome c') :
    ∃ reply, tr = [⟨statusRequest resource status, reply⟩] := by
  obtain ⟨fields, metadata, rfl, hm⟩ := shaped.obj
  rw [statusRequest_obj status hm]
  exact h.asked_of_writeStatus_found (metadataIn_obj hm)

/-- An outcome is reported on, unless the count stands against it. -/
theorem Ends.reports_of_reportApplied {counted conditions : Json} {reported : Json × Bool}
    (h : Ends (reportApplied t applied counted conditions) c tr (.ok reported) c')
    (settled : ∀ fault attempt, applied ≠ .conflicted fault attempt) :
    ∃ reports, applied.Reports t counted reports := by
  have counts : applied.fault? = none → ∃ reports, applied.Reports t counted reports := by
    intro well
    rw [reportApplied_of_well well] at h
    rcases h.of_bind with ⟨_, no, _⟩ | ⟨_, _, _, _, rfl, _, h⟩
    · cases no
    rcases h.of_ofExcept_bind with ⟨_, _, _, no, _⟩ | ⟨isReady, enough, _⟩
    · cases no
    exact ⟨_, .applied well enough⟩
  cases applied with
  | conflicted fault attempt => exact absurd rfl (settled fault attempt)
  | failed fault attempt => exact ⟨_, .failed⟩
  | _ => exact counts rfl

theorem Ends.written_of_statusAfter {status : Json}
    (h : Ends (statusAfter t applied (.arr (conditionsIn resource))) c tr (.ok status) c')
    (shaped : StorageShaped resource)
    (settled : ∀ fault attempt, applied ≠ .conflicted fault attempt) :
    ∃ written, OutcomeStatus c.clock resource t applied written := by
  rcases h.of_ofExcept_bind with ⟨_, _, _, no, _⟩ | ⟨counted, count, h⟩
  · cases no
  rcases h.of_bind with ⟨_, no, _⟩ | ⟨reported, _, _, _, rfl, composed, _⟩
  · cases no
  obtain ⟨reports, each⟩ := composed.reports_of_reportApplied settled
  obtain ⟨after, recorded, _⟩ :=
    recordAll_entries c.clock.texts reports shaped.entries
  exact ⟨_, counted, reports, after, count, each, recorded, rfl⟩

/-- Whether an outcome can be reported does not depend on the time. -/
theorem outcomeStatus_at {clock : Clock} {status : Json}
    (written : OutcomeStatus clock resource t applied status) (shaped : StorageShaped resource)
    (later : Clock) : ∃ again, OutcomeStatus later resource t applied again := by
  obtain ⟨counted, reports, _, count, each, _⟩ := written
  obtain ⟨after, recorded, _⟩ := recordAll_entries later.texts reports shaped.entries
  exact ⟨_, counted, reports, after, count, each, recorded, rfl⟩

theorem Ends.course_of_applyAndReport {s : Settings δ} {outcome : Except Fault (Directive δ)}
    (h : Ends (applyAndReport s resource (.arr (conditionsIn resource)) t) c tr outcome c')
    (shaped : StorageShaped resource) (staying : deleting resource = false)
    (accepted : Topology.ofResource resource = .ok t) : Course c.clock resource tr := by
  obtain ⟨fields, metadata, rfl, hm⟩ := shaped.obj
  obtain ⟨applying, rest, applied, rfl, way, h⟩ := h.steps_of_applyAndReport (metadataIn_obj hm)
  rcases h with ⟨fault, rfl, rfl, _⟩ | ⟨fault, attempt, rfl, rfl, _⟩ |
    ⟨a, c₁, rfl, settled, applies, h⟩
  · rw [List.append_nil]
    exact .silent accepted way (by simp)
  · rw [List.append_nil]
    refine .silent accepted way ?_
    rintro _ clock status same ⟨counted, reports, _, _, reported, _⟩
    cases same
    exact reports_of_conflicted reported
  by_cases writes : ∃ status, OutcomeStatus c₁.clock (.obj fields) t a status
  · obtain ⟨status, written⟩ := writes
    obtain ⟨c₂, _, h⟩ := h.of_statusAfter_bind written
    obtain ⟨reply, rfl⟩ := h.asked_of_writeStatus shaped
    rw [applies.clock] at written
    exact .written (.reported staying accepted way written)
  · -- Without a status to write nothing is asked after applying.
    rcases h.of_bind with ⟨_, _, failed⟩ | ⟨_, _, _, _, _, made, _⟩
    · obtain rfl := quiet_statusAfter _ _ _ _ _ _ _ failed
      rw [List.append_nil]
      refine .silent accepted way ?_
      intro b clock status same written
      cases same
      exact writes (outcomeStatus_at written shaped c₁.clock)
    · exact absurd (made.written_of_statusAfter shaped settled) writes

theorem Ends.course_of_reconcileResource {s : Settings δ} {ns name : Json}
    {outcome : Except Fault (Directive δ)} (shaped : StorageShaped resource)
    (h : Ends (reconcileResource s (metadataOf ns name) resource) c tr outcome c') :
    Course c.clock resource tr := by
  rcases h.cases_of_reconcileResource shaped with ⟨leaving, rfl, _⟩ |
    ⟨staying, c₁, applies, ⟨message, rejected, h⟩ | ⟨t, accepted, h⟩⟩
  · exact .deleting leaving
  · obtain ⟨status, c₂, written, _, h⟩ := h.write_of_reportInvalid shaped
    obtain ⟨reply, rfl⟩ := h.asked_of_writeStatus shaped
    rw [applies.clock] at written
    exact .written (.malformed staying rejected written)
  · rw [← applies.clock]
    exact h.course_of_applyAndReport shaped staying accepted

/-- A pass reads its resource. If that fails, nothing more is asked; if it succeeds and the resource is
well-shaped, the pass goes one of the courses. -/
theorem Ends.course_of_reconcile {s : Settings δ} {ns name : Json}
    {outcome : Except Fault (Directive δ)} (h : Ends (reconcile s ns name) c tr outcome c') :
    ∃ reply rest, tr = ⟨.readStorage ns name, reply⟩ :: rest ∧
      (∀ fault, reply = .error fault → rest = []) ∧
      ∀ resource, reply = .ok resource → StorageShaped resource →
        Course c.clock resource rest := by
  obtain ⟨c₁, c₂, before, once, _⟩ := h.once_of_reconcile
  obtain ⟨reply, rest, rfl, answered⟩ := once.of_ask_bind
  refine ⟨reply, rest, rfl, ?_, ?_⟩
  · rintro fault rfl
    split at answered
    next no => cases no
    next => exact (quiet_log _ _ _ _).bind (fun _ => Quiet.pure _) _ _ _ _ answered
    next =>
      split at answered
      · exact (Quiet.note _).bind (fun _ => (quiet_log _ _ _ _).bind fun _ => Quiet.pure _)
          _ _ _ _ answered
      · exact Quiet.throw _ _ _ _ _ answered
  · rintro resource rfl shaped
    rw [← before.clock]
    exact answered.course_of_reconcileResource shaped

end Pass

end StorageController
