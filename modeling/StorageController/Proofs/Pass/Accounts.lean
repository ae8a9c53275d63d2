import StorageController.Proofs.Cluster.StatusGenerations
import StorageController.Proofs.Pass.Counting

namespace StorageController

open Condition

variable {δ : Type} {ns name resource : Json} {tr : List Exchange}
  {outcome : Except Fault (Directive δ)} {counted : List Metric}

/-- The label under which the result of a pass is counted. -/
def resultOf : Except Fault (Directive δ) → String
  | .ok directive => directive.result
  | .error _ => "error"

/-- A pass asks to be repeated after an error, or it ends with a fault. -/
def EndsInError : Except Fault (Directive δ) → Prop
  | .ok directive => directive.IsError
  | .error _ => True

/-- How applying ends is told by the replies to it. -/
theorem Application.unique {t : Topology} {owner : Json} {tr tr' rest rest' : List Exchange}
    {applied applied' : Except Fault Applied} (h : Application t owner tr applied)
    (h' : Application t owner tr' applied') (eq : tr ++ rest = tr' ++ rest') :
    applied = applied' := by
  cases h with
  | unread present =>
    cases h' with
    | unread _ => cases eq; rfl
    | unowned _ | creating _ => cases eq; exact absurd rfl (present _)
    | unchanged _ | unversioned _ _ | patching _ _ => cases eq
  | unowned owned =>
    cases h' with
    | unread present => cases eq; exact absurd rfl (present _)
    | unowned owned' => cases owned.symm.trans owned'; rfl
    | creating owned' => cases owned.symm.trans owned'
    | unchanged _ | unversioned _ _ | patching _ _ => cases eq
  | creating owned =>
    cases h' with
    | unread present => cases eq; exact absurd rfl (present _)
    | unowned owned' => cases owned.symm.trans owned'
    | creating owned' => cases eq; rfl
    | unchanged _ | unversioned _ _ | patching _ _ => cases eq
  | unchanged same =>
    cases h' with
    | unread _ | unowned _ | creating _ => cases eq
    | unchanged _ => cases eq; rfl
    | unversioned differ _ | patching differ _ => cases eq; cases same.symm.trans differ
  | unversioned differ versioned =>
    cases h' with
    | unread _ | unowned _ | creating _ => cases eq
    | unchanged same => cases eq; cases same.symm.trans differ
    | unversioned _ versioned' => cases eq; cases versioned.symm.trans versioned'; rfl
    | patching _ versioned' => cases eq; cases versioned.symm.trans versioned'
  | patching differ versioned =>
    cases h' with
    | unread _ | unowned _ | creating _ => cases eq
    | unchanged same => cases eq; cases same.symm.trans differ
    | unversioned _ versioned' => cases eq; cases versioned.symm.trans versioned'
    | patching differ' versioned' =>
      obtain ⟨first, later⟩ := List.cons.inj eq
      cases first
      cases differ.symm.trans differ'
      cases versioned.symm.trans versioned'
      cases later
      rfl

/-- Of every pass that started, one result and one duration was counted. -/
def Conserved (counted : List Metric) : Prop :=
  counted.count (.pass Cluster.storageKind "started") =
      counted.count (.pass Cluster.storageKind "success") +
        counted.count (.pass Cluster.storageKind "requeue") +
        counted.count (.pass Cluster.storageKind "error") ∧
    counted.count (.pass Cluster.storageKind "started") =
      counted.count (.passDuration Cluster.storageKind)

theorem Conserved.append {counted further : List Metric} (h : Conserved counted)
    (h' : Conserved further) : Conserved (counted ++ further) := by
  obtain ⟨ended, timed⟩ := h
  obtain ⟨ended', timed'⟩ := h'
  simp only [Conserved, List.count_append]
  omega

theorem count_pass (counted : List Metric) (kind result : String) :
    counted.count (.pass kind result) = (results counted).count (kind, result) := by
  induction counted with
  | nil => rfl
  | cons m rest ih => cases m <;> simp_all [results, List.count_cons]

theorem count_passDuration (counted : List Metric) (kind : String) :
    counted.count (.passDuration kind) = (durations counted).count kind := by
  induction counted with
  | nil => rfl
  | cons m rest ih => cases m <;> simp_all [durations, List.count_cons]

namespace Pass

theorem Balances.after_read {reply : Reply} (h : Balances tr outcome counted) :
    Balances (⟨.readStorage ns name, reply⟩ :: tr) outcome counted := by
  have read : ∀ e ∈ [(⟨.readStorage ns name, reply⟩ : Exchange)], ¬ e.request.IsStatus := by
    simp [Request.IsStatus]
  have nothing : ∀ m ∈ ([] : List Metric), OfApplying m := by simp
  exact h.after_applying read nothing

/-- What is counted in a whole pass: its start, what is counted in between, and its end. -/
def wholePass (outcome : Except Fault (Directive δ)) (between : List Metric) : List Metric :=
  .pass Cluster.storageKind "started" :: (between ++ measuredAfter Cluster.storageKind outcome)

theorem results_wholePass (outcome : Except Fault (Directive δ)) {between : List Metric}
    (nothing : results between = []) : results (wholePass outcome between) =
      [(Cluster.storageKind, "started"), (Cluster.storageKind, resultOf outcome)] := by
  have last : results (measuredAfter Cluster.storageKind outcome) =
      [(Cluster.storageKind, resultOf outcome)] := by cases outcome <;> rfl
  have after : results (between ++ measuredAfter Cluster.storageKind outcome) =
      [(Cluster.storageKind, resultOf outcome)] := by
    rw [results_append, nothing, last, List.nil_append]
  exact congrArg ((Cluster.storageKind, "started") :: ·) after

theorem durations_wholePass (outcome : Except Fault (Directive δ)) {between : List Metric}
    (nothing : durations between = []) :
    durations (wholePass outcome between) = [Cluster.storageKind] := by
  have last : durations (measuredAfter Cluster.storageKind outcome) = [Cluster.storageKind] := by
    cases outcome <;> rfl
  have after : durations (between ++ measuredAfter Cluster.storageKind outcome) =
      [Cluster.storageKind] := by
    rw [durations_append, nothing, last, List.nil_append]
  exact after

theorem appliedOutcomes_wholePass (outcome : Except Fault (Directive δ)) (between : List Metric) :
    appliedOutcomes (wholePass outcome between) = appliedOutcomes between := by
  have last : appliedOutcomes (measuredAfter Cluster.storageKind outcome) = [] := by
    cases outcome <;> rfl
  have after : appliedOutcomes (between ++ measuredAfter Cluster.storageKind outcome) =
      appliedOutcomes between := by
    rw [appliedOutcomes_append, last, List.append_nil]
  exact after

theorem readinesses_wholePass (outcome : Except Fault (Directive δ)) (between : List Metric) :
    readinesses (wholePass outcome between) = readinesses between := by
  have last : readinesses (measuredAfter Cluster.storageKind outcome) = [] := by
    cases outcome <;> rfl
  have after : readinesses (between ++ measuredAfter Cluster.storageKind outcome) =
      readinesses between := by
    rw [readinesses_append, last, List.append_nil]
  exact after

/-- A fault that escapes a pass is counted at its end. -/
theorem erred_wholePass (outcome : Except Fault (Directive δ)) (between : List Metric) :
    Erred (wholePass outcome between) ↔ Erred between ∨ ∃ fault, outcome = .error fault := by
  have last : Erred (measuredAfter Cluster.storageKind outcome) ↔
      ∃ fault, outcome = .error fault := by
    cases outcome <;> simp [Erred, measuredAfter]
  have start : Erred (wholePass outcome between) ↔
      Erred (between ++ measuredAfter Cluster.storageKind outcome) := by
    simp [Erred, wholePass]
  rw [start, erred_append, last]

end Pass

section

variable [Redaction.VisitingOrder]

/-- The exchanges are those of a pass that applied the topology of its resource, and applying
returned. -/
def ApplyReturned (ns name : Json) (tr : List Exchange) (applied : Applied) : Prop :=
  ∃ resource t applying rest c c',
    tr = ⟨.readStorage ns name, .ok resource⟩ :: (applying ++ rest) ∧
    Topology.ofResource resource = .ok t ∧
    Pass.Ends (Pass.apply t resource) c applying (.ok applied) c'

/-- One outcome of applying is counted if applying returned, and none otherwise. -/
structure AppliesOnce (ns name : Json) (tr : List Exchange) (counted : List Metric) : Prop where
  applied : ∀ applied, ApplyReturned ns name tr applied →
    appliedOutcomes counted = [applied.outcome]
  unapplied : (∀ applied, ¬ ApplyReturned ns name tr applied) → appliedOutcomes counted = []

/-- What is counted in a pass over a resource, with its exchanges and its outcome. -/
structure Accounted (ns name : Json) (tr : List Exchange) (outcome : Except Fault (Directive δ))
    (counted : List Metric) : Prop where
  results : results counted =
    [(Cluster.storageKind, "started"), (Cluster.storageKind, resultOf outcome)]
  durations : durations counted = [Cluster.storageKind]
  faults : Erred counted ↔ EndsInError outcome
  once : AppliesOnce ns name tr counted
  readiness : ∀ status, Sends tr status → ∃ ready,
    readinesses counted = [(Cluster.storageKind, readinessLabel ready)] ∧
    (ready = true ↔ Says status readyType true)

/-- Where no StatefulSet was read, applying did not return. -/
theorem not_applyReturned {reply : Reply}
    (statuses : ∀ e ∈ tr, e.request.IsStatus) (applied : Applied) :
    ¬ ApplyReturned ns name (⟨.readStorage ns name, reply⟩ :: tr) applied := by
  intro ⟨resource, t, applying, rest, c, c', eq, accepted, ends⟩
  obtain ⟨_, rfl⟩ := List.cons.inj eq
  obtain ⟨reply, further, rfl⟩ := ends.of_apply.1.reads
  obtain ⟨_, _, _, no⟩ := statuses ⟨.readSet t.ns t.name, reply⟩ (by simp)
  cases no

theorem appliesOnce_of_none {reply : Reply} (statuses : ∀ e ∈ tr, e.request.IsStatus)
    (outcomes : appliedOutcomes counted = []) :
    AppliesOnce ns name (⟨.readStorage ns name, reply⟩ :: tr) counted where
  applied := fun applied returned => absurd returned (not_applyReturned statuses applied)
  unapplied := fun _ => outcomes

open Pass in
theorem appliesOnce_of_handles (h : Handles resource tr outcome counted) :
    AppliesOnce ns name (⟨.readStorage ns name, .ok resource⟩ :: tr) counted := by
  rcases h with concludes |
    ⟨_, t, applying, rest, result, c, c', rfl, accepted, ends, outcomes⟩
  · exact appliesOnce_of_none concludes.statuses concludes.outcomes
  · constructor
    · intro applied ⟨_, t', applying', rest', c₁, c₁', eq, accepted', ends'⟩
      obtain ⟨same, after⟩ := List.cons.inj eq
      cases same
      cases accepted.symm.trans accepted'
      have returned := ends.of_apply.1.unique ends'.of_apply.1 after
      rw [outcomes, returned]
      rfl
    · intro none
      cases result with
      | error fault => exact outcomes
      | ok applied =>
        exact absurd ⟨resource, t, applying, rest, c, c', rfl, accepted, ends⟩ (none applied)

namespace Pass

/-- What is counted between the start of a pass and its end. -/
structure Counted (ns name : Json) (tr : List Exchange) (outcome : Except Fault (Directive δ))
    (counted : List Metric) : Prop where
  balances : Balances tr outcome counted
  once : AppliesOnce ns name tr counted

theorem counted_of_concludes {reply : Reply} (h : Concludes tr outcome counted) :
    Counted ns name (⟨.readStorage ns name, reply⟩ :: tr) outcome counted :=
  ⟨h.balances.after_read, appliesOnce_of_none h.statuses h.outcomes⟩

theorem counted_of_handles (h : Handles resource tr outcome counted) :
    Counted ns name (⟨.readStorage ns name, .ok resource⟩ :: tr) outcome counted := by
  have balances : Balances tr outcome counted := h.elim (·.balances) (·.1)
  exact ⟨balances.after_read, appliesOnce_of_handles h⟩

theorem counts_reconcileOnce (s : Settings δ) (ns name : Json) :
    Counts (Counted ns name) (reconcileOnce s ns name) := by
  have concluding : ∀ {reply : Reply} {pass : Pass (Directive δ)}, Counts Concludes pass →
      Counts (fun tr => Counted ns name (⟨.readStorage ns name, reply⟩ :: tr)) pass :=
    fun concludes => concludes.mono fun _ _ _ => counted_of_concludes
  apply Counts.ask_bind
  intro reply
  split
  next resource =>
    refine (counts_reconcileResource s _ resource).mono ?_
    intro tr outcome counted handles
    exact counted_of_handles handles
  next =>
    apply concluding
    apply Counts.silent_bind (.log _ _ _ _) (fun _ => concludes_of_error rfl rfl rfl)
    intro _ _
    exact .pure concludes_done
  next fault _ =>
    apply concluding
    split
    next =>
      apply Counts.count_bind
      refine .silent_bind (.log _ _ _ _) (fun _ => concludes_of_error rfl rfl rfl) ?_
      intro _ _
      have erred : Erred [.error Cluster.storageKind fault.kind] := ⟨_, List.mem_cons_self⟩
      have isError : (Directive.requeueError (some fault) : Directive δ).IsError := ⟨_, rfl⟩
      have balances : Balances [] (.ok (.requeueError fault : Directive δ))
          [.error Cluster.storageKind fault.kind] := by
        refine ⟨rfl, rfl, ?_, by simp [Sends]⟩
        intro d ended
        cases ended
        exact iff_of_true erred isError
      exact .pure ⟨balances, by simp, rfl⟩
    next => exact .throw (concludes_of_error rfl rfl rfl)

/-- A pass is counted when it starts and when it ends, with everything in between. -/
theorem Ends.counted_of_reconcile {s : Settings δ} {c c' : Context}
    (h : Ends (reconcile s ns name) c tr outcome c') :
    ∃ between, Counted ns name tr outcome between ∧ c.Grows (wholePass outcome between) c' := by
  have measured : ∀ {c₁ c₂ tr outcome},
      Ends (measured Cluster.storageKind (metadataOf ns name) (reconcileOnce s ns name)) c₁ tr
        outcome c₂ → ∃ between, Counted ns name tr outcome between ∧
          c₁.Grows (wholePass outcome between) c₂ := by
    intro c₁ c₂ tr outcome ends
    obtain ⟨c₃, c₄, before, once, after⟩ := ends.of_measured
    obtain ⟨between, grows, holds⟩ := counts_reconcileOnce s ns name _ _ _ _ once
    exact ⟨between, holds, (before.trans grows).trans after⟩
  obtain ⟨c₁, c₂, before, h, after⟩ := h.of_correlated
  obtain ⟨_, c₃, c₄, before', h, after'⟩ := h.of_span
  rcases h.of_bind with ⟨fault, rfl, failed⟩ | ⟨directive, c₅, first, rest, rfl, ended, tagged⟩
  · obtain ⟨between, holds, grows⟩ := measured failed
    have whole := (((before.trans before').trans grows).trans after').trans after
    exact ⟨between, holds, by simpa using whole⟩
  · obtain ⟨c₆, grows₆, tagged⟩ := tagged.of_notes_bind (notes_tag _ _ c₅)
    obtain ⟨rfl, rfl, rfl⟩ := ends_pure_iff.mp tagged
    obtain ⟨between, holds, grows⟩ := measured ended
    have whole := ((((before.trans before').trans grows).trans grows₆).trans after').trans after
    rw [List.append_nil]
    exact ⟨between, holds, by simpa using whole⟩

theorem Counted.accounted (h : Counted ns name tr outcome counted) :
    Accounted ns name tr outcome (wholePass outcome counted) where
  results := results_wholePass outcome h.balances.results
  durations := durations_wholePass outcome h.balances.durations
  faults := by
    rw [erred_wholePass]
    cases outcome with
    | ok directive =>
      have inside := h.balances.faults directive rfl
      simpa [EndsInError] using inside
    | error fault => simp [EndsInError]
  once := by
    have same := appliedOutcomes_wholePass outcome counted
    exact ⟨fun applied returned => same.trans (h.once.applied applied returned),
      fun none => same.trans (h.once.unapplied none)⟩
  readiness := by
    intro status sent
    obtain ⟨ready, said, once⟩ := h.balances.readiness status sent
    rw [readinesses_wholePass]
    refine ⟨ready, once, ?_⟩
    constructor
    · intro holds
      exact holds ▸ said
    · intro told
      exact says_unique said told

end Pass

/-! Runs of passes. -/

/-- A pass of a run, with the journals before and after it. -/
structure PassRecord (δ : Type) where
  ns : Json
  name : Json
  exchanges : List Exchange
  outcome : Except Fault (Directive δ)
  before : Journal
  after : Journal

/-- Passes one after the other, each over any resource, at any time and with any replies. All of them
count into one journal. -/
inductive Passes : Journal → List (PassRecord δ) → Journal → Prop
  | done (journal : Journal) : Passes journal [] journal
  | pass {s : Settings δ} {ns name : Json} {c c' : Context} {tr : List Exchange}
      {outcome : Except Fault (Directive δ)} {rest : List (PassRecord δ)} {last : Journal}
      (ends : Pass.Ends (Pass.reconcile s ns name) c tr outcome c')
      (further : Passes c'.journal rest last) :
      Passes c.journal (⟨ns, name, tr, outcome, c.journal, c'.journal⟩ :: rest) last

/-- The metrics that are in the journal after a pass and not in the one before it. -/
def PassRecord.increases (p : PassRecord δ) : List Metric :=
  p.after.metrics.drop p.before.metrics.length

theorem Accounted.conserved (h : Accounted ns name tr outcome counted) : Conserved counted := by
  have label : resultOf outcome = "success" ∨ resultOf outcome = "requeue" ∨
      resultOf outcome = "error" := by
    cases outcome with
    | ok directive => cases directive <;> simp [resultOf, Directive.result]
    | error fault => simp [resultOf]
  simp only [Conserved, count_pass, count_passDuration, h.results, h.durations]
  rcases label with eq | eq | eq <;> rw [eq] <;> decide

/-- What a pass counts, seen from the journals before and after it. -/
theorem Pass.Ends.accounted {s : Settings δ} {c c' : Context}
    (h : Ends (reconcile s ns name) c tr outcome c') :
    c'.journal.metrics =
      c.journal.metrics ++ c'.journal.metrics.drop c.journal.metrics.length ∧
    Accounted ns name tr outcome (c'.journal.metrics.drop c.journal.metrics.length) := by
  obtain ⟨between, holds, grows⟩ := h.counted_of_reconcile
  have increases : c'.journal.metrics.drop c.journal.metrics.length = wholePass outcome between := by
    rw [grows.metrics, List.drop_left]
  rw [increases]
  exact ⟨grows.metrics, holds.accounted⟩

/-- The metrics account for every pass of a run: what was counted is what its passes counted one after
the other, as many passes ended as started, and each is told by what it counted. -/
theorem metrics_account_for_passes {passes : List (PassRecord δ)} {before after : Journal}
    (run : Passes before passes after) :
    after.metrics = before.metrics ++ passes.flatMap PassRecord.increases ∧
    Conserved (passes.flatMap PassRecord.increases) ∧
    ∀ p ∈ passes, p.after.metrics = p.before.metrics ++ p.increases ∧
      Accounted p.ns p.name p.exchanges p.outcome p.increases := by
  induction run with
  | done journal => exact ⟨by simp, ⟨rfl, rfl⟩, by simp⟩
  | @pass s ns name c c' tr outcome rest last ends further ih =>
    obtain ⟨total, conserved, each⟩ := ih
    obtain ⟨grown, accounted⟩ := ends.accounted
    refine ⟨?_, ?_, ?_⟩
    · rw [total, grown, List.append_assoc]
      rfl
    · exact accounted.conserved.append conserved
    · exact List.forall_mem_cons.mpr ⟨⟨grown, accounted⟩, each⟩

end

open Redaction.TokenFirst in
/-- A pass that meets a fault nobody expects is followed by one that finds the StatefulSet ready. -/
theorem metrics_account_for_passes_recovering :
    let resource : Json := .obj
      [("metadata", .obj [("namespace", "swift"), ("name", "storage"), ("uid", "u-1")])]
    let live : Json := .obj [("status", .obj [("readyReplicas", .int 1)])]
    ∃ (p q : PassRecord Nat) (body status : Json) (after : Journal), Passes [] [p, q] after ∧
      p.exchanges = [⟨.readStorage "swift" "storage", .error (.unexpected "lost")⟩] ∧
      q.exchanges = [⟨.readStorage "swift" "storage", .ok resource⟩,
        ⟨.readSet "swift" "storage", .error (.notFound "not found")⟩,
        ⟨.createSet "swift" body, .ok live⟩,
        ⟨.patchStatus "swift" "storage" status, .ok resource⟩] ∧
      Conserved ([p, q].flatMap PassRecord.increases) ∧ Erred p.increases ∧ ¬ Erred q.increases ∧
      readinesses q.increases = [(Cluster.storageKind, "ready")] := by
  intro resource live
  let s : Settings Nat := ⟨8080, 30, 4, 1, 60, 2, 5, 300, ""⟩
  let c : Context := ⟨0, {}, .off, [], []⟩
  obtain ⟨middle, first⟩ : ∃ middle, Pass.Ends (Pass.reconcile s "swift" "storage") c
      [⟨.readStorage "swift" "storage", .error (.unexpected "lost")⟩]
      (.error (.unexpected "lost")) middle := ⟨_, .call (.ret _)⟩
  obtain ⟨body, status, last, second, told⟩ : ∃ body status last,
      Pass.Ends (Pass.reconcile s "swift" "storage") { c with journal := middle.journal }
        [⟨.readStorage "swift" "storage", .ok resource⟩,
          ⟨.readSet "swift" "storage", .error (.notFound "not found")⟩,
          ⟨.createSet "swift" body, .ok live⟩,
          ⟨.patchStatus "swift" "storage" status, .ok resource⟩] (.ok .done) last ∧
      Says status readyType true :=
    ⟨_, _, _, .call (.call (.call (.call (.ret _)))), _, rfl, rfl⟩
  have later := Passes.pass second (.done last.journal)
  have run := Passes.pass first later
  obtain ⟨_, conserved, each⟩ := metrics_account_for_passes run
  have failed := (each _ List.mem_cons_self).2
  have ready := (each _ (List.mem_cons_of_mem _ List.mem_cons_self)).2
  refine ⟨_, _, body, status, _, run, rfl, rfl, conserved, failed.faults.mpr trivial, ?_, ?_⟩
  · intro erred
    obtain ⟨_, no⟩ := ready.faults.mp erred
    cases no
  · obtain ⟨holds, once, labelled⟩ :=
      ready.readiness status ⟨"swift", "storage", .ok resource, by simp⟩
    rw [labelled.mpr told] at once
    exact once

end StorageController
