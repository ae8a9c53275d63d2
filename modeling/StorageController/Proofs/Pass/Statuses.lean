import StorageController.Proofs.StatefulSet.Ownership
import StorageController.Proofs.Pass.WrittenStatus

namespace StorageController.Pass

open Json Condition

variable {α β δ : Type} {pass : Pass α} {f : α → Pass β} {c c' : Context} {tr : List Exchange}
  {resource conditions : Json} {t : Topology}

/-- A part of a pass that asks nothing and takes no time. -/
def Idle (pass : Pass α) : Prop :=
  Within (fun c tr c' => tr = [] ∧ c'.clock = c.clock) pass

theorem composes_idle : Composes fun c tr c' => tr = [] ∧ c'.clock = c.clock where
  done _ := ⟨rfl, rfl⟩
  append first second :=
    ⟨List.append_eq_nil_iff.mpr ⟨first.1, second.1⟩, second.2.trans first.2⟩
  note _ _ _ := ⟨rfl, rfl⟩

theorem Idle.log [Redaction.VisitingOrder] (kind : String) (metadata : Json) (report : Report)
    (further : Fields) :
    Idle (log kind metadata report further) :=
  Within.log composes_idle kind metadata report further

theorem Ends.of_idle_bind {outcome : Except Fault β} (h : Ends (pass >>= f) c tr outcome c')
    (idle : Idle pass) :
    (∃ fault, outcome = .error fault ∧ tr = []) ∨
    ∃ a c₁, c₁.clock = c.clock ∧ Ends pass c [] (.ok a) c₁ ∧ Ends (f a) c₁ tr outcome c' := by
  rcases h.of_bind with ⟨fault, rfl, failed⟩ | ⟨a, c₁, first, second, rfl, done, rest⟩
  · exact Or.inl ⟨fault, rfl, (idle _ _ _ _ failed).1⟩
  · obtain ⟨rfl, same⟩ := idle _ _ _ _ done
    exact Or.inr ⟨a, c₁, same, done, rest⟩

theorem Ends.of_report {r : Condition.Report} {after : Json}
    (h : Ends (report r conditions) c tr (.ok after) c') :
    c'.clock = c.clock ∧ ∃ entries recorded, conditions = .arr entries ∧ after = .arr recorded ∧
      r.record (c.clock.texts r.type) entries = .ok recorded := by
  obtain ⟨_, same⟩ := Within.report composes_idle r conditions _ _ _ _ h
  obtain ⟨c₁, grows, h⟩ := h.of_notes_bind (notes_clock r.type c)
  obtain ⟨_, updated, _⟩ := ends_ofExcept_iff.mp h
  refine ⟨same, ?_⟩
  cases conditions with
  | arr entries =>
    obtain ⟨recorded, eq, done⟩ := ok_of_bind updated.symm
    cases done
    exact ⟨entries, recorded, rfl, rfl, eq⟩
  | _ =>
    obtain ⟨items, _, refused⟩ := ok_of_bind updated.symm
    cases items <;> cases refused

theorem Ends.of_report_bind {r : Condition.Report} {f : Json → Pass β} {outcome : Except Fault β}
    (h : Ends (report r conditions >>= f) c tr outcome c') :
    (∃ fault, outcome = .error fault ∧ tr = []) ∨
    ∃ entries recorded c₁, conditions = .arr entries ∧ c₁.clock = c.clock ∧
      r.record (c.clock.texts r.type) entries = .ok recorded ∧
      Ends (f (.arr recorded)) c₁ tr outcome c' := by
  rcases h.of_idle_bind (Within.report composes_idle r conditions) with
    failed | ⟨_, c₁, _, made, h⟩
  · exact Or.inl failed
  · obtain ⟨same, entries, recorded, rfl, rfl, eq⟩ := made.of_report
    exact Or.inr ⟨entries, recorded, c₁, rfl, same, eq, h⟩

theorem recordAll_of_cons {times : Json → String} {r : Condition.Report}
    {rest : List Condition.Report} {entries middle : List Json}
    (first : r.record (times r.type) entries = .ok middle) :
    recordAll times (r :: rest) entries = recordAll times rest middle := by
  rw [recordAll, List.foldlM_cons, first]
  rfl

variable [Redaction.VisitingOrder]

/-- Two reports are made on every outcome, and a last one is to follow. -/
theorem Ends.recorded_of_reportApplied {applied : Applied} {counted after : Json} {isReady : Bool}
    (h : Ends (reportApplied t applied counted conditions) c tr (.ok (after, isReady)) c')
    (settled : ∀ fault attempt, applied ≠ .conflicted fault attempt) :
    ∃ first second entries middle recorded, conditions = .arr entries ∧ after = .arr recorded ∧
      applied.Reports t counted [first, second, specInvalid false "Spec is valid" t.generation] ∧
      first.record (c.clock.texts first.type) entries = .ok middle ∧
      second.record (c.clock.texts second.type) middle = .ok recorded := by
  obtain ⟨reports, each⟩ := h.reports_of_reportApplied settled
  cases each with
  | failed =>
    rcases h.of_report_bind with ⟨_, no, _⟩ | ⟨entries, middle, c₁, rfl, same, first, h⟩
    · cases no
    rcases h.of_report_bind with ⟨_, no, _⟩ | ⟨_, recorded, c₂, eq, _, second, h⟩
    · cases no
    cases eq
    obtain ⟨_, eq, _⟩ := ends_pure_iff.mp h
    cases eq
    exact ⟨_, _, entries, middle, recorded, rfl, rfl, .failed, first, same ▸ second⟩
  | applied well enough =>
    rw [reportApplied_of_well well] at h
    rcases h.of_report_bind with ⟨_, no, _⟩ | ⟨entries, middle, c₁, rfl, same, first, h⟩
    · cases no
    replace h := h.of_ok_bind enough
    rcases h.of_report_bind with ⟨_, no, _⟩ | ⟨_, recorded, c₂, eq, _, second, h⟩
    · cases no
    cases eq
    obtain ⟨_, eq, _⟩ := ends_pure_iff.mp h
    cases eq
    exact ⟨_, _, entries, middle, recorded, rfl, rfl, .applied well enough, first, same ▸ second⟩

theorem Ends.outcome_of_statusAfter {applied : Applied} {status : Json}
    (h : Ends (statusAfter t applied conditions) c tr (.ok status) c')
    (known : ∀ entries, conditions = .arr entries → conditionsIn resource = entries)
    (settled : ∀ fault attempt, applied ≠ .conflicted fault attempt) :
    OutcomeStatus c.clock resource t applied status := by
  rcases h.of_ofExcept_bind with ⟨_, _, _, no, _⟩ | ⟨counted, count, h⟩
  · cases no
  rcases h.of_idle_bind (Within.reportApplied composes_idle t applied counted conditions) with
    ⟨_, no, _⟩ | ⟨⟨after, isReady⟩, c₁, same, made, h⟩
  · cases no
  obtain ⟨first, second, entries, middle, recorded, rfl, rfl, each, one, two⟩ :=
    made.recorded_of_reportApplied settled
  rcases h.of_report_bind with ⟨_, no, _⟩ | ⟨_, last, c₂, eq, _, three, h⟩
  · cases no
  cases eq
  obtain ⟨c₃, _, h⟩ := h.of_notes_bind (notes_count _ c₂)
  obtain ⟨_, eq, _⟩ := ends_pure_iff.mp h
  cases eq
  rw [same] at three
  refine ⟨counted, _, last, count, each, ?_, rfl⟩
  rw [known entries rfl, recordAll_of_cons one, recordAll_of_cons two, recordAll_of_cons three]
  rfl

theorem Ends.asked_of_found {status : Json} {directive : Directive δ} {metadata : Fields}
    {outcome : Except Fault (Directive δ)} (found : metadataIn resource = .ok (.obj metadata))
    (h : Ends (writeStatus resource status directive) c tr outcome c') :
    ∃ reply, tr = [⟨statusRequest resource status, reply⟩] := by
  rw [statusRequest, path?_of_metadataIn found, path?_of_metadataIn found]
  exact h.asked_of_writeStatus_found found

/-- The status of a malformed resource is written, or its conditions do not bear a report. -/
theorem Ends.status_of_reportInvalid {fault : Fault} {metadata : Fields}
    {outcome : Except Fault (Directive δ)} (found : metadataIn resource = .ok (.obj metadata))
    (known : ∀ entries, conditions = .arr entries → conditionsIn resource = entries)
    (h : Ends (reportInvalid resource conditions fault) c tr outcome c') :
    tr = [] ∨ ∃ status reply, tr = [⟨statusRequest resource status, reply⟩] ∧
      InvalidStatus c.clock resource fault status := by
  replace h := h.of_ok_bind found
  replace h := h.of_ok_bind (lookupOr_obj metadata "generation" (.int 0))
  rw [← path?_of_metadataIn found] at h
  obtain ⟨c₁, grows₁, h⟩ := h.of_notes_bind (notes_countFault _ fault c)
  obtain ⟨c₂, grows₂, h⟩ := h.of_notes_bind (notes_logFault _ metadata _ _ _ c₁)
  obtain ⟨c₃, grows₃, h⟩ := h.of_notes_bind (notes_emit _ c₂)
  have same : c₃.clock = c.clock := ((grows₁.trans grows₂).trans grows₃).clock
  rcases h.of_report_bind with ⟨_, _, rfl⟩ | ⟨entries, middle, c₄, rfl, same₄, one, h⟩
  · exact Or.inl rfl
  rcases h.of_report_bind with ⟨_, _, rfl⟩ | ⟨_, recorded, c₅, eq, _, two, h⟩
  · exact Or.inl rfl
  cases eq
  obtain ⟨c₆, _, h⟩ := h.of_notes_bind (notes_count _ c₅)
  obtain ⟨reply, rfl⟩ := h.asked_of_found found
  rw [same] at one
  rw [same₄, same] at two
  refine Or.inr ⟨_, reply, rfl, recorded, ?_, rfl⟩
  rw [known entries rfl, invalidReports, recordAll_of_cons one, recordAll_of_cons two]
  rfl

/-- What a pass asks after it has read its resource: no status is written, or one at the end. -/
def Reported (clock : Clock) (resource : Json) (tr : List Exchange) : Prop :=
  (∀ e ∈ tr, ¬ e.request.IsStatus) ∨
  ∃ front status reply, tr = front ++ [⟨statusRequest resource status, reply⟩] ∧
    Written clock resource front status

theorem reported_nil (clock : Clock) (resource : Json) : Reported clock resource [] :=
  Or.inl (by simp)

theorem Ends.reported_of_applyAndReport {s : Settings δ} {metadata : Fields}
    {outcome : Except Fault (Directive δ)} (found : metadataIn resource = .ok (.obj metadata))
    (known : ∀ entries, conditions = .arr entries → conditionsIn resource = entries)
    (staying : deleting resource = false) (accepted : Topology.ofResource resource = .ok t)
    (h : Ends (applyAndReport s resource conditions t) c tr outcome c') :
    Reported c.clock resource tr := by
  obtain ⟨applying, rest, applied, rfl, way, h⟩ := h.steps_of_applyAndReport found
  rcases h with ⟨_, _, rfl, _⟩ | ⟨_, _, _, rfl, _⟩ | ⟨a, c₁, rfl, settled, applies, h⟩
  · exact Or.inl (by simpa using way.not_status)
  · exact Or.inl (by simpa using way.not_status)
  rcases h.of_idle_bind (Within.statusAfter composes_idle t a conditions) with
    ⟨_, _, rfl⟩ | ⟨status, c₂, _, made, h⟩
  · exact Or.inl (by simpa using way.not_status)
  obtain ⟨reply, rfl⟩ := h.asked_of_found found
  have written := made.outcome_of_statusAfter known settled
  rw [applies.clock] at written
  exact Or.inr ⟨applying, status, reply, rfl, .reported staying accepted way written⟩

omit [Redaction.VisitingOrder] in
/-- Metadata that are looked into, or the identity in their place, are those of the resource. -/
theorem deleting_of_lookup {inside deleted ns name : Json} {metadata : Fields}
    (found : metadataIn resource = .ok (.obj metadata))
    (present : resource.lookupOr "metadata" (metadataOf ns name) = .ok inside)
    (looked : inside.lookupD "deletionTimestamp" .null = .ok deleted) :
    deleting resource = deleted.truthy := by
  rw [deleting, path?_of_metadataIn found]
  cases resource with
  | obj fields =>
    rw [metadataIn, lookupOr_obj, Json.orElse] at found
    rw [lookupOr_obj, Json.orElse] at present
    split at found
    next truthy =>
      rw [if_pos truthy] at present
      cases found.symm.trans present
      cases looked
      rfl
    next falsy =>
      rw [if_neg falsy] at present
      cases found
      cases present
      cases looked
      rfl
  | _ => cases found

omit [Redaction.VisitingOrder] in
theorem conditionsOf_of_orElse {status : Json} {entries : List Json}
    (h : ((status.get? "conditions").getD .null).orElse (.arr []) = .arr entries) :
    conditionsOf status = entries := by
  rw [conditionsOf]
  generalize status.get? "conditions" = found at h ⊢
  rw [Json.orElse] at h
  split at h
  next truthy =>
    cases found with
    | none => cases truthy
    | some value =>
      cases h
      rfl
  next falsy =>
    cases h
    cases found with
    | none => rfl
    | some value =>
      cases value with
      | arr items =>
        cases items with
        | nil => rfl
        | cons item rest => exact absurd rfl falsy
      | _ => rfl

omit [Redaction.VisitingOrder] in
theorem path?_pair (j : Json) (outer key : String) :
    j.path? [outer, key] = (j.get? outer).bind (·.get? key) := by
  rw [path?]
  cases j.get? outer with
  | none => rfl
  | some inside => exact Option.bind_fun_some _

omit [Redaction.VisitingOrder] in
/-- A member looked up in a document, or in nothing in its place. -/
theorem lookupOr_orElse {j default value : Json} {key : String}
    (h : (j.orElse (.obj [])).lookupOr key default = .ok value) :
    value = ((j.get? key).getD .null).orElse default := by
  rw [Json.orElse] at h
  split at h
  next truthy =>
    cases j with
    | obj fields => exact (Except.ok.inj h).symm
    | _ => cases h
  next falsy =>
    cases h
    cases j with
    | obj fields =>
      cases fields with
      | nil => rfl
      | cons field rest => exact absurd rfl falsy
    | _ => rfl

omit [Redaction.VisitingOrder] in
/-- Conditions that are a list are those in the status of the resource. -/
theorem conditionsIn_of_lookup {status : Json}
    (present : resource.lookupOr "status" (.obj []) = .ok status)
    (looked : status.lookupOr "conditions" (.arr []) = .ok conditions) :
    ∀ entries, conditions = .arr entries → conditionsIn resource = entries := by
  rintro entries rfl
  have inside : status = ((resource.get? "status").getD .null).orElse (.obj []) := by
    cases resource with
    | obj fields => exact (Except.ok.inj present).symm
    | _ => cases present
  rw [inside] at looked
  have listed := lookupOr_orElse looked
  cases found : resource.get? "status" with
  | none =>
    rw [found] at listed
    cases listed
    rw [conditionsIn, path?, found]
    rfl
  | some value =>
    rw [found] at listed
    rw [conditionsIn_of_status found]
    exact conditionsOf_of_orElse listed.symm

theorem Ends.reported_of_reconcileResource {s : Settings δ} {ns name : Json}
    {outcome : Except Fault (Directive δ)}
    (h : Ends (reconcileResource s (metadataOf ns name) resource) c tr outcome c') :
    Reported c.clock resource tr := by
  rcases h.of_ofExcept_bind with ⟨_, _, rfl, _⟩ | ⟨inside, present, h⟩
  · exact reported_nil _ _
  rcases h.of_ofExcept_bind with ⟨_, _, rfl, _⟩ | ⟨deleted, looked, h⟩
  · exact reported_nil _ _
  obtain ⟨metadata, found⟩ := metadataIn_of_lookup present looked
  have leaving := deleting_of_lookup found present looked
  split at h
  next =>
    obtain ⟨rfl, _⟩ := ((Idle.log _ _ _ _).bind composes_idle fun _ => .pure composes_idle _)
      _ _ _ _ h
    exact reported_nil _ _
  next staying =>
    rw [Bool.eq_false_iff.mpr staying] at leaving
    obtain ⟨c₁, grows, h⟩ := h.of_notes_bind (notes_emit _ c)
    rw [← grows.clock]
    rcases h.of_ofExcept_bind with ⟨_, _, rfl, _⟩ | ⟨status, present, h⟩
    · exact reported_nil _ _
    rcases h.of_ofExcept_bind with ⟨_, _, rfl, _⟩ | ⟨conditions, looked, h⟩
    · exact reported_nil _ _
    have known := conditionsIn_of_lookup present looked
    split at h
    next t accepted => exact h.reported_of_applyAndReport found known leaving accepted
    next message rejected =>
      rcases h.status_of_reportInvalid found known with rfl | ⟨status, reply, rfl, written⟩
      · exact reported_nil _ _
      · exact Or.inr ⟨[], status, reply, rfl, .malformed leaving rejected written⟩
    next =>
      obtain ⟨rfl, _⟩ := ends_throw_iff.mp h
      exact reported_nil _ _

/-- A pass reads its resource first. It writes no status then, or it writes one at the end that was
made from the resource and from what was applied in between. -/
theorem Ends.reported_of_reconcile {s : Settings δ} {ns name : Json}
    {outcome : Except Fault (Directive δ)} (h : Ends (reconcile s ns name) c tr outcome c') :
    ∃ reply rest, tr = ⟨.readStorage ns name, reply⟩ :: rest ∧
      (∀ fault, reply = .error fault → rest = []) ∧
      ∀ resource, reply = .ok resource → Reported c.clock resource rest := by
  obtain ⟨reply, rest, rfl, failed, _⟩ := h.course_of_reconcile
  refine ⟨reply, rest, rfl, failed, ?_⟩
  rintro resource rfl
  obtain ⟨c₁, c₂, before, once, _⟩ := h.once_of_reconcile
  obtain ⟨_, _, eq, answered⟩ := once.of_ask_bind
  cases eq
  rw [← before.clock]
  exact answered.reported_of_reconcileResource

end StorageController.Pass
