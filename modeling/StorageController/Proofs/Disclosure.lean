import StorageController.Proofs.Cluster.ReadyCount
import StorageController.Proofs.Dispatch
import StorageController.Proofs.Pass.Disclosure
import StorageController.SpanExport

namespace StorageController

open Condition Redaction

variable {δ : Type} {known : Fault → Prop} {c c' : Context} {tr : List Exchange}

section

variable [VisitingOrder]

/-- The message of a condition tells of no fault, or of one whose message it redacts. -/
def Condition.Allowed (known : Fault → Prop) (text : String) : Prop :=
  text ∈ ["StatefulSet applied", "Spec is valid"] ∨
  (∃ counted wanted : Json, text = counted.display ++ "/" ++ wanted.display ++ " replicas ready") ∨
  Sanitized known "" text

def Condition.Sanitized (known : Fault → Prop) (entry : Json) : Prop :=
  ∃ text, entry.get? "message" = some (.str text) ∧ Condition.Allowed known text

/-- The messages with which an event comes again that say nothing about a fault. -/
def retryTexts : List String :=
  ["Reconciler is not bound yet", "Requeue requested", "Reconciliation failed"]

/-- The message with which an event comes again. -/
def Handled.message? : Handled δ → Option String
  | .again message _ => some message
  | .finished => none

def Handled.Sanitized (known : Fault → Prop) (handled : Handled δ) : Prop :=
  ∀ message, handled.message? = some message →
    message ∈ retryTexts ∨ StorageController.Sanitized known "" message

theorem Condition.allowed_of_fault {fault : Fault} (isKnown : known fault) :
    Condition.Allowed known (redactFault fault) :=
  Or.inr (Or.inr (.plain isKnown))

theorem sanitized_of_recordAll {times : Json → String} {reports : List Report}
    {entries after : List Json}
    (recorded : recordAll times reports entries = .ok after)
    (allowed : ∀ r ∈ reports, ∃ text, r.message = .str text ∧ Condition.Allowed known text) :
    ∀ entry ∈ after, entry ∈ entries ∨ Condition.Sanitized known entry := by
  intro entry mem
  rcases mem_recordAll recorded entry mem with kept | ⟨r, made, time, rfl⟩
  · exact Or.inl kept
  · obtain ⟨text, message, allowed⟩ := allowed r made
    exact Or.inr ⟨text, message ▸ rfl, allowed⟩

theorem InvalidStatus.sanitized {clock : Clock} {resource status : Json} {fault : Fault}
    (written : InvalidStatus clock resource fault status) (isKnown : known fault) :
    ∃ entries, status.get? "conditions" = some (.arr entries) ∧
      ∀ entry ∈ entries, entry ∈ conditionsIn resource ∨ Condition.Sanitized known entry := by
  obtain ⟨entries, recorded, rfl⟩ := written
  refine ⟨entries, rfl, sanitized_of_recordAll recorded ?_⟩
  refine List.forall_mem_cons.mpr ⟨⟨_, rfl, allowed_of_fault isKnown⟩, ?_⟩
  exact List.forall_mem_singleton.mpr ⟨_, rfl, allowed_of_fault isKnown⟩

theorem OutcomeStatus.sanitized {clock : Clock} {resource status : Json} {t : Topology}
    {applied : Applied} (written : OutcomeStatus clock resource t applied status)
    (owns : Pass.Owns known applied) :
    ∃ entries, status.get? "conditions" = some (.arr entries) ∧
      ∀ entry ∈ entries, entry ∈ conditionsIn resource ∨ Condition.Sanitized known entry := by
  obtain ⟨counted, reports, entries, _, each, recorded, rfl⟩ := written
  refine ⟨entries, rfl, sanitized_of_recordAll recorded ?_⟩
  cases each with
  | failed =>
    have allowed := allowed_of_fault (owns _ rfl)
    refine List.forall_mem_cons.mpr ⟨⟨_, rfl, allowed⟩, ?_⟩
    refine List.forall_mem_cons.mpr ⟨⟨_, rfl, allowed⟩, ?_⟩
    exact List.forall_mem_singleton.mpr ⟨_, rfl, Or.inl (by decide)⟩
  | applied well enough =>
    refine List.forall_mem_cons.mpr ⟨⟨_, rfl, Or.inl (by decide)⟩, ?_⟩
    refine List.forall_mem_cons.mpr
      ⟨⟨_, rfl, Or.inr (Or.inl ⟨counted, .int t.replicas, rfl⟩)⟩, ?_⟩
    exact List.forall_mem_singleton.mpr ⟨_, rfl, Or.inl (by decide)⟩

omit [VisitingOrder] in
theorem Applied.owns_of_ofFault {attempt : Option (Json × Json)} {fault : Fault} {applied : Applied}
    (h : Applied.ofFault attempt fault = .ok applied) (isKnown : known fault) :
    Pass.Owns known applied := by
  rw [Applied.ofFault] at h
  split at h
  · cases h
    rintro _ ⟨⟩
    exact isKnown
  · cases h

omit [VisitingOrder] in
theorem Applied.owns_of_ofWrite {done : Json → Applied} {attempt : Option (Json × Json)}
    {reply : Reply} {applied : Applied} (h : Applied.ofWrite done attempt reply = .ok applied)
    (well : ∀ object, (done object).fault? = none)
    (isKnown : ∀ fault, reply = .error fault → known fault) : Pass.Owns known applied := by
  unfold Applied.ofWrite at h
  split at h
  next object =>
    cases h
    intro fault failed
    cases (well object).symm.trans failed
  next =>
    cases h
    rintro _ ⟨⟩
    exact isKnown _ rfl
  next fault _ => exact Applied.owns_of_ofFault h (isKnown fault rfl)

omit [VisitingOrder] in
/-- A fault that applying hands on was answered by the cluster. -/
theorem Application.answered {t : Topology} {owner : Json} {applied : Applied}
    (way : Application t owner tr (.ok applied)) :
    Pass.Owns (fun fault => ∃ e ∈ tr, e.reply = .error fault) applied := by
  generalize eq : Except.ok applied = result at way
  cases way with
  | unread _ => exact Applied.owns_of_ofFault eq.symm ⟨_, List.mem_cons_self, rfl⟩
  | unowned _ => cases eq
  | creating _ =>
    refine Applied.owns_of_ofWrite eq.symm (fun _ => rfl) ?_
    rintro fault rfl
    exact ⟨_, List.mem_cons_of_mem _ List.mem_cons_self, rfl⟩
  | unchanged _ =>
    cases eq
    rintro _ ⟨⟩
  | unversioned _ _ => cases eq
  | patching _ _ =>
    refine Applied.owns_of_ofWrite eq.symm (fun _ => rfl) ?_
    rintro fault rfl
    exact ⟨_, List.mem_cons_of_mem _ List.mem_cons_self, rfl⟩

namespace Pass

theorem Ends.conditions_of_reconcile {s : Settings δ} {ns name place called status : Json}
    {reply : Reply} {outcome : Except Fault (Directive δ)}
    (h : Ends (reconcile s ns name) c tr outcome c')
    (mem : ⟨.patchStatus place called status, reply⟩ ∈ tr) :
    ∃ resource entries, ⟨.readStorage ns name, .ok resource⟩ ∈ tr ∧
      status.get? "conditions" = some (.arr entries) ∧
      ∀ entry ∈ entries, entry ∈ conditionsIn resource ∨ Condition.Sanitized (Met tr) entry := by
  obtain ⟨first, rest, rfl, failed, reports⟩ := h.reported_of_reconcile
  obtain inRest : ⟨.patchStatus place called status, reply⟩ ∈ rest := by simpa using mem
  cases first with
  | error fault => simp [failed fault rfl] at inRest
  | ok resource =>
    rcases reports resource rfl with silent | ⟨front, written, reply', rfl, made⟩
    · exact absurd ⟨place, called, status, rfl⟩ (silent _ inRest)
    rcases List.mem_append.mp inRest with inside | last
    · exact absurd ⟨place, called, status, rfl⟩ (made.not_status _ inside)
    obtain rfl : status = written := by
      have same := congrArg Exchange.request (List.mem_singleton.mp last)
      cases same
      rfl
    refine ⟨resource, ?_⟩
    have sanitized : ∃ entries, status.get? "conditions" = some (.arr entries) ∧
        ∀ entry ∈ entries, entry ∈ conditionsIn resource ∨ Condition.Sanitized
          (Met (⟨.readStorage ns name, .ok resource⟩ ::
            (front ++ [⟨statusRequest resource status, reply'⟩]))) entry := by
      cases made with
      | malformed _ rejected invalid =>
        exact invalid.sanitized ⟨_, List.mem_cons_self, Or.inr ⟨resource, rfl, rejected⟩⟩
      | reported _ _ way outcome =>
        refine outcome.sanitized fun fault handed => ?_
        obtain ⟨e, mem, answered⟩ := way.answered fault handed
        exact ⟨e, List.mem_cons_of_mem _ (List.mem_append_left _ mem), Or.inl answered⟩
    obtain ⟨entries, found, each⟩ := sanitized
    exact ⟨entries, List.mem_cons_self, found, each⟩

theorem Ends.conditions_of_handleStorage [Duration δ] {d : Dispatcher δ}
    {ns name place called status : Json} {retry : Int} {reply : Reply}
    {outcome : Except Fault (Handled δ)} (h : Ends (d.handleStorage ns name retry) c tr outcome c')
    (mem : ⟨.patchStatus place called status, reply⟩ ∈ tr) :
    ∃ resource entries, ⟨.readStorage ns name, .ok resource⟩ ∈ tr ∧
      status.get? "conditions" = some (.arr entries) ∧
      ∀ entry ∈ entries, entry ∈ conditionsIn resource ∨ Condition.Sanitized (Met tr) entry := by
  unfold Dispatcher.handleStorage at h
  split at h
  · obtain ⟨rfl, _⟩ := ends_pure_iff.mp h
    cases mem
  · rcases h.of_bind with ⟨fault, _, failed⟩ | ⟨_, _, first, second, rfl, passed, h⟩
    · exact failed.conditions_of_reconcile mem
    · obtain ⟨rfl, _⟩ := ends_ofExcept_iff.mp h
      rw [List.append_nil] at mem ⊢
      exact passed.conditions_of_reconcile mem

theorem tells_carryOut [Duration δ] (d : Dispatcher δ) {directive : Directive δ} (retry : Int)
    (hands : Hands known directive) :
    Tells known (Handled.Sanitized known) (ofExcept (d.carryOut directive retry)) := by
  refine tells_ofExcept fun handled h => ?_
  cases directive with
  | done =>
    cases h
    rintro _ ⟨⟩
  | requeueAfter delay =>
    cases h
    rintro _ ⟨⟩
    exact Or.inl (by decide)
  | requeueError error =>
    cases delay : d.settings.backoffDelay retry with
    | error fault =>
      rw [Dispatcher.carryOut, delay] at h
      cases h
    | ok delay' =>
      rw [Dispatcher.carryOut, delay] at h
      cases h
      rintro _ ⟨⟩
      cases error with
      | none => exact Or.inl (List.mem_cons_of_mem _ (List.mem_cons_of_mem _ List.mem_cons_self))
      | some fault => exact Or.inr (.plain (hands fault rfl))

theorem sanitized_notBound (d : Dispatcher δ) : d.notBound.Sanitized known := by
  rintro _ ⟨⟩
  exact Or.inl (by decide)

theorem tells_handleStorage [Duration δ] (d : Dispatcher δ) (ns name : Json) (retry : Int) :
    Tells known (Handled.Sanitized known) (d.handleStorage ns name retry) := by
  unfold Dispatcher.handleStorage
  split
  · exact tells_pure (sanitized_notBound d)
  · exact (tells_reconcile _ ns name).bind fun _ hands => tells_carryOut d retry hands

theorem tells_requestPass (ns name trigger : Json) :
    Tells known (fun _ => True) (requestPass ns name trigger) := by
  refine Tells.ask_bind (fun _ _ => tells_pure trivial) fun fault _ => ?_
  cases fault with
  | notFound message => exact (tells_logInfo (by decide)).bind fun _ _ => tells_pure trivial
  | _ => exact tells_throw _

theorem tells_reportTriggerFailed (metadata ns owner : Json) {fault : Fault} (isKnown : known fault) :
    Tells known (fun _ => True) (Dispatcher.reportTriggerFailed metadata ns owner fault) := by
  refine (tells_look _).bind fun _ _ => (tells_look _).bind fun _ _ => ?_
  refine tells_logAbout rfl (Or.inr ⟨fault, isKnown, rfl⟩) ?_
  exact List.forall_mem_singleton.mpr ⟨by simp, by simp⟩

theorem tells_eventNs {β : Type} {Q : β → Prop} {given metadata : Json} {f : Json → Pass β}
    (h : ∀ ns, Tells known Q (f ns)) :
    Tells known Q (if given.truthy then pure given >>= f
      else ofExcept (metadata.lookupD "namespace" "default") >>= f) := by
  split
  · exact h given
  · exact (tells_look _).bind fun ns _ => h ns

theorem tells_triggerOwner (reference object given : Json) :
    Tells known (fun _ => True) (Dispatcher.triggerOwner reference object given) := by
  refine (tells_look _).bind fun metadata _ => tells_eventNs fun ns => ?_
  refine (tells_look _).bind fun version _ => (tells_look _).bind fun uid _ => ?_
  split
  next => exact tells_throw _
  next owner _ =>
    refine (tells_requestPass ns owner _).attempt_bind ?_ (fun _ _ => tells_pure trivial) ?_
    · intro c tr fault c' ends
      obtain ⟨reply, rfl, ⟨_, no⟩ | ⟨_, rfl, same⟩⟩ := ends.of_requestPass
      · cases no
      · cases same
        exact ⟨_, List.mem_singleton.mpr rfl, rfl⟩
    · exact fun fault isKnown =>
        tells_operator (tells_reportTriggerFailed metadata ns owner isKnown)

theorem tells_handleSet (d : Dispatcher δ) (object given : Json) :
    Tells known (Handled.Sanitized known) (d.handleSet object given) := by
  refine (tells_look _).bind fun controller _ => ?_
  split
  · exact tells_pure (by rintro _ ⟨⟩)
  · split
    · exact (tells_triggerOwner _ object given).bind fun _ _ => tells_pure (by rintro _ ⟨⟩)
    · exact tells_pure (sanitized_notBound d)

end Pass

omit [VisitingOrder] in
theorem SpanExport.warning_setUp {env : Environment} {service warning : String}
    {failure : Option Fault} (h : (setUp env service failure).warning = some warning) :
    ∃ fault, failure = some fault ∧ warning = "Failed to initialize tracing: " ++ fault.text := by
  unfold setUp at h
  split at h
  · cases failure with
    | none => cases h
    | some fault => exact ⟨fault, rfl, (Option.some.inj h).symm⟩
  · cases h

/-- The faults of the cluster and of refused resources are redacted wherever a dispatcher reports
them. The fault that keeps spans from being exported is reported as it is. -/
theorem reported_errors_redacted [Duration δ] (d : Dispatcher δ) :
    (∀ ns name retry c tr outcome c', (d.handleStorage ns name retry).Ends c tr outcome c' →
      c.Tells (Raised tr outcome) c' ∧
      (∀ handled, outcome = .ok handled → handled.Sanitized (Raised tr outcome)) ∧
      ∀ place called status reply, ⟨.patchStatus place called status, reply⟩ ∈ tr →
        ∃ resource entries, ⟨.readStorage ns name, .ok resource⟩ ∈ tr ∧
          status.get? "conditions" = some (.arr entries) ∧
          ∀ entry ∈ entries, entry ∈ conditionsIn resource ∨ Condition.Sanitized (Met tr) entry) ∧
    (∀ object given c tr outcome c', (d.handleSet object given).Ends c tr outcome c' →
      c.Tells (Raised tr outcome) c' ∧
      ∀ handled, outcome = .ok handled → handled.Sanitized (Raised tr outcome)) ∧
    ∀ env service failure warning,
      (SpanExport.setUp env service failure).warning = some warning →
        ∃ fault, failure = some fault ∧ warning = "Failed to initialize tracing: " ++ fault.text ∧
          (warning = "Failed to initialize tracing: " ++ redactFault fault ↔
            redactFault fault = fault.text) := by
  refine ⟨?_, ?_, ?_⟩
  · intro ns name retry c tr outcome c' ends
    obtain ⟨told, good⟩ := Pass.tells_handleStorage d ns name retry _ _ _ _ ends fun _ h => h
    exact ⟨told, good, fun place called status reply => ends.conditions_of_handleStorage⟩
  · intro object given c tr outcome c' ends
    exact Pass.tells_handleSet d object given _ _ _ _ ends fun _ h => h
  · intro env service failure warning h
    obtain ⟨fault, rfl, rfl⟩ := SpanExport.warning_setUp h
    refine ⟨fault, rfl, rfl, ?_⟩
    rw [String.append_right_inj]
    exact eq_comm

end

namespace Unreadable

open TokenFirst

def settings : Settings Rat :=
  ⟨8080, 30, 4, 1, 60, 2, 0, 300, ""⟩

def dispatcher : Dispatcher Rat :=
  ⟨settings, some settings, true⟩

def fault : Fault :=
  .transport "token=abc" .null

def context : Context :=
  ⟨0, {}, .off, [], []⟩

def server : Faulty :=
  Unseen.faulty [⟨"get_stateful_set", fault, none⟩]

def pass : Calls (Except Fault (Handled Rat) × Context) :=
  (dispatcher.handleStorage "swift" "storage" 0).start context

end Unreadable

open Unreadable TokenFirst in
/-- The StatefulSet cannot be read, and the token in the fault is nowhere to be seen. -/
theorem reported_errors_redacted_unread :
    let tr := (pass.turns Faulty.answer server).map Turn.exchange
    let (outcome, after) := (pass.run Faulty.answer server).1
    Met tr fault ∧ context.Tells (Raised tr outcome) after ∧
      after.journal.events.map Event.message =
        ["Reconciliation started", "Reconciliation failed: token: [REDACTED]"] ∧
      outcome.toOption.bind Handled.message? = some "token: [REDACTED]" := by
  have ends := Pass.ends_run Faulty.answer (dispatcher.handleStorage "swift" "storage" 0) context server
  refine ⟨?_, ?_, ?_, ?_⟩
  · exact ⟨⟨.readSet "swift" "storage", .error fault⟩, .tail _ (.head _), Or.inl rfl⟩
  · exact ((reported_errors_redacted dispatcher).1 _ _ _ _ _ _ _ ends).1
  · decide +kernel
  · decide +kernel

open Unreadable TokenFirst in
/-- The exporter of spans cannot be made, and the warning shows the token. -/
theorem tracing_warning_unredacted :
    (SpanExport.setUp [] "swift-operator" (some (.unexpected "token=abc"))).warning =
        some "Failed to initialize tracing: token=abc" ∧
      "Failed to initialize tracing: token=abc" ≠
        "Failed to initialize tracing: " ++ redactFault (.unexpected "token=abc") := by
  decide +kernel

end StorageController
