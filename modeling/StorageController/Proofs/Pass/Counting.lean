import StorageController.Proofs.Cluster.StatusCoherence
import StorageController.Proofs.Pass.Statuses

namespace StorageController

open Condition

variable {δ : Type}

def Directive.IsError (directive : Directive δ) : Prop :=
  ∃ error, directive = .requeueError error

/-- A fault of a pass over storage resources was counted. -/
def Erred (counted : List Metric) : Prop :=
  ∃ fault, Metric.error Cluster.storageKind fault ∈ counted

/-- The readiness of resources, as it was counted. -/
def readinesses (counted : List Metric) : List (String × String) :=
  counted.filterMap fun
    | .readiness kind status => some (kind, status)
    | _ => none

/-- The results of passes, as they were counted. -/
def results (counted : List Metric) : List (String × String) :=
  counted.filterMap fun
    | .pass kind result => some (kind, result)
    | _ => none

def durations (counted : List Metric) : List String :=
  counted.filterMap fun
    | .passDuration kind => some kind
    | _ => none

def readinessLabel (ready : Bool) : String :=
  if ready then "ready" else "not_ready"

/-- A status was sent to the cluster, whatever became of it. -/
def Sends (tr : List Exchange) (status : Json) : Prop :=
  ∃ ns name reply, ⟨.patchStatus ns name status, reply⟩ ∈ tr

theorem erred_append {counted further : List Metric} :
    Erred (counted ++ further) ↔ Erred counted ∨ Erred further := by
  simp only [Erred, List.mem_append, exists_or]

theorem readinesses_append (counted further : List Metric) :
    readinesses (counted ++ further) = readinesses counted ++ readinesses further :=
  List.filterMap_append

theorem results_append (counted further : List Metric) :
    results (counted ++ further) = results counted ++ results further :=
  List.filterMap_append

theorem durations_append (counted further : List Metric) :
    durations (counted ++ further) = durations counted ++ durations further :=
  List.filterMap_append

namespace Pass

variable {α β : Type} {pass : Pass α} {f : α → Pass β}
  {P : List Exchange → Except Fault α → List Metric → Prop}
  {Q : List Exchange → Except Fault β → List Metric → Prop}

/-- However the requests of a part of a pass are answered, what it counts is so related to its
exchanges and its outcome. -/
def Counts (P : List Exchange → Except Fault α → List Metric → Prop) (pass : Pass α) : Prop :=
  ∀ c tr outcome c', Ends pass c tr outcome c' →
    ∃ counted, c.Grows counted c' ∧ P tr outcome counted

/-- A part of a pass that asks nothing and counts nothing, with what is known of its value. -/
def Silent (known : α → Prop) (pass : Pass α) : Prop :=
  Counts (fun tr outcome counted => tr = [] ∧ counted = [] ∧ ∀ a, outcome = .ok a → known a) pass

namespace Counts

theorem mono {P' : List Exchange → Except Fault α → List Metric → Prop} (h : Counts P pass)
    (weaker : ∀ tr outcome counted, P tr outcome counted → P' tr outcome counted) :
    Counts P' pass := by
  intro c tr outcome c' ends
  obtain ⟨counted, grows, holds⟩ := h c tr outcome c' ends
  exact ⟨counted, grows, weaker tr outcome counted holds⟩

theorem ofExcept {x : Except Fault α} (h : P [] x []) : Counts P (ofExcept x) := by
  intro c tr outcome c' ends
  obtain ⟨rfl, rfl, rfl⟩ := ends_ofExcept_iff.mp ends
  exact ⟨[], .refl c', h⟩

theorem pure {a : α} (h : P [] (.ok a) []) : Counts P (pure a) :=
  ofExcept h

theorem throw {fault : Fault} (h : P [] (.error fault) []) : Counts P (throw fault) :=
  ofExcept h

theorem note {n : Note} : Counts
    (fun tr outcome counted => tr = [] ∧ outcome = .ok () ∧ counted = Journal.metrics [n])
    (note n) := by
  intro c tr outcome c' ends
  obtain ⟨rfl, rfl, grows⟩ := ends.of_notes (notes_note n c)
  exact ⟨_, grows, rfl, rfl, rfl⟩

theorem bind (first : Counts P pass)
    (failed : ∀ tr fault counted, P tr (.error fault) counted → Q tr (.error fault) counted)
    (rest : ∀ tr a counted, P tr (.ok a) counted →
      Counts (fun tr' outcome further => Q (tr ++ tr') outcome (counted ++ further)) (f a)) :
    Counts Q (pass >>= f) := by
  intro c tr outcome c' ends
  rcases ends.of_bind with ⟨fault, rfl, stopped⟩ | ⟨a, c₁, tr₁, tr₂, rfl, done, further⟩
  · obtain ⟨counted, grows, holds⟩ := first _ _ _ _ stopped
    exact ⟨counted, grows, failed _ _ _ holds⟩
  · obtain ⟨counted, grows, holds⟩ := first _ _ _ _ done
    obtain ⟨further, grows', holds'⟩ := rest _ _ _ holds _ _ _ _ further
    exact ⟨counted ++ further, grows.trans grows', holds'⟩

theorem silent_bind {known : α → Prop} (silent : Silent known pass)
    (failed : ∀ fault, Q [] (.error fault) []) (rest : ∀ a, known a → Counts Q (f a)) :
    Counts Q (pass >>= f) := by
  refine Counts.bind silent ?_ ?_
  · rintro tr fault counted ⟨rfl, rfl, _⟩
    exact failed fault
  · rintro tr a counted ⟨rfl, rfl, holds⟩
    exact rest a (holds a rfl)

theorem count_bind {m : Metric} {f : Unit → Pass β}
    (rest : Counts (fun tr outcome counted => Q tr outcome (m :: counted)) (f ())) :
    Counts Q (count m >>= f) := by
  refine (note (n := .metric m)).bind ?_ ?_
  · rintro tr fault counted ⟨_, no, _⟩
    cases no
  · rintro tr a counted ⟨rfl, _, rfl⟩
    exact rest

theorem emit_bind {e : Event} {f : Unit → Pass β} (rest : Counts Q (f ())) :
    Counts Q (emit e >>= f) := by
  refine (note (n := .event e)).bind ?_ ?_
  · rintro tr fault counted ⟨_, no, _⟩
    cases no
  · rintro tr a counted ⟨rfl, _, rfl⟩
    exact rest

theorem ask_bind {r : Request} {f : Reply → Pass β}
    (rest : ∀ reply, Counts (fun tr outcome counted => Q (⟨r, reply⟩ :: tr) outcome counted)
      (f reply)) : Counts Q (attempt (request r) >>= f) := by
  intro c tr outcome c' ends
  obtain ⟨reply, tr', rfl, answered⟩ := ends.of_ask_bind
  exact rest reply c tr' outcome c' answered

theorem span {name : String} {kind : Json} {attributes : Fields} {block : Option String → Pass α}
    (h : ∀ label, Counts P (block label)) : Counts P (span name kind attributes block) := by
  intro c tr outcome c' ends
  obtain ⟨label, c₁, c₂, before, ends, after⟩ := ends.of_span
  obtain ⟨counted, grows, holds⟩ := h label _ _ _ _ ends
  refine ⟨counted, ?_, holds⟩
  simpa using (before.trans grows).trans after

end Counts

namespace Silent

variable {known : α → Prop} {known' : β → Prop}

theorem ofExcept (x : Except Fault α) : Silent (x = .ok ·) (ofExcept x) :=
  Counts.ofExcept ⟨rfl, rfl, fun _ => id⟩

theorem pure {a : α} (h : known a) : Silent known (pure a) := by
  apply Counts.pure
  refine ⟨rfl, rfl, ?_⟩
  intro b same
  cases same
  exact h

theorem bind (first : Silent known pass) (rest : ∀ a, known a → Silent known' (f a)) :
    Silent known' (pass >>= f) :=
  Counts.silent_bind first (fun _ => ⟨rfl, rfl, by simp⟩) rest

theorem context : Silent (fun _ => True) context := by
  intro c tr outcome c' ends
  obtain ⟨rfl, _, grows⟩ := ends.of_notes (notes_context c)
  exact ⟨[], grows, rfl, rfl, fun _ _ => trivial⟩

theorem note {n : Note} (plain : Journal.metrics [n] = []) : Silent (fun _ => True) (note n) := by
  refine Counts.note.mono ?_
  rintro tr outcome counted ⟨rfl, rfl, rfl⟩
  exact ⟨rfl, plain, fun _ _ => trivial⟩

theorem log [Redaction.VisitingOrder] (kind metadata : Json) (report : Report) (further : Fields) :
    Silent (fun _ => True) (log kind metadata report further) := by
  apply (ofExcept _).bind
  intro _ _
  apply (ofExcept _).bind
  intro ⟨name, ns, uid⟩ _
  apply (ofExcept _).bind
  intro _ _
  exact context.bind fun _ _ => note rfl

end Silent

/-! Writing the status. -/

/-- A status is written and nothing else; faults are counted if and only if the directive becomes, or
was, one that follows an error. -/
structure Writes (status : Json) (directive : Directive δ) (tr : List Exchange)
    (outcome : Except Fault (Directive δ)) (counted : List Metric) : Prop where
  only : ∀ e ∈ tr, ∃ ns name, e.request = .patchStatus ns name status
  faults : ∀ m ∈ counted, ∃ fault, m = .error Cluster.storageKind fault
  directed : ∀ d, outcome = .ok d → (d.IsError ↔ directive.IsError ∨ counted ≠ [])

theorem writes_nothing {status : Json} {directive : Directive δ} {tr : List Exchange}
    {outcome : Except Fault (Directive δ)}
    (only : ∀ e ∈ tr, ∃ ns name, e.request = .patchStatus ns name status)
    (same : ∀ d, outcome = .ok d → d = directive) : Writes status directive tr outcome [] where
  only
  faults := by simp
  directed := by
    intro d ended
    rw [same d ended]
    simp

/-- A fault that is counted makes the directive one of an error, if it was none. -/
theorem writes_fault {status : Json} {directive : Directive δ} {fault : String}
    {tr : List Exchange} {outcome : Except Fault (Directive δ)}
    (only : ∀ e ∈ tr, ∃ ns name, e.request = .patchStatus ns name status)
    (error : ∀ d, outcome = .ok d → d.IsError) :
    Writes status directive tr outcome [.error Cluster.storageKind fault] where
  only
  faults := by simp
  directed := by
    intro d ended
    have isError := error d ended
    simp [isError]

theorem counts_writeStatus [Redaction.VisitingOrder] (resource status : Json)
    (directive : Directive δ) :
    Counts (Writes status directive) (writeStatus resource status directive) := by
  have unwritten : ∀ fault, Writes status directive [] (.error fault) [] := fun fault =>
    writes_nothing (by simp) (by simp)
  apply Counts.silent_bind (.ofExcept _) unwritten
  intro metadata _
  apply Counts.silent_bind (.ofExcept _) unwritten
  intro ns _
  apply Counts.silent_bind (.ofExcept _) unwritten
  intro name _
  apply Counts.ask_bind
  intro reply
  have only : ∀ e ∈ [(⟨.patchStatus ns name status, reply⟩ : Exchange)],
      ∃ ns name, e.request = .patchStatus ns name status := by simp
  split
  next => exact .pure (writes_nothing only (by simp))
  next =>
    refine .silent_bind (.log _ _ _ _) (fun _ => writes_nothing only (by simp)) ?_
    intro _ _
    exact .pure (writes_nothing only (by simp))
  next fault _ =>
    split
    next =>
      apply Counts.count_bind
      refine .silent_bind (.log _ _ _ _) (fun _ => writes_fault only (by simp)) ?_
      intro _ _
      split
      next error => exact .pure (writes_fault only (by simp [Directive.IsError]))
      next => exact .pure (writes_fault only (by simp [Directive.IsError]))
    next => exact .throw (writes_nothing only (by simp))

/-! Composing the status. -/

/-- The first condition of the type is there and holds, or does not. -/
def Shows (conditions : Json) (type : String) (holds : Bool) : Prop :=
  ∃ entries condition, conditions = .arr entries ∧ Condition.find type entries = some condition ∧
    condition.get? "status" = some (statusOf holds)

/-- A report was recorded among conditions. -/
def Recorded (r : Condition.Report) (conditions after : Json) : Prop :=
  ∃ now entries recorded, conditions = .arr entries ∧ after = .arr recorded ∧
    r.record now entries = .ok recorded

theorem Recorded.shows {r : Condition.Report} {conditions after : Json} {type : String}
    {holds : Bool} (h : Recorded r conditions after) (reports : r.type = type)
    (said : r.status = statusOf holds) : Shows after type holds := by
  obtain ⟨now, entries, recorded, rfl, rfl, eq⟩ := h
  have plain : r.Plain := ⟨⟨type, reports⟩, ⟨_, said⟩⟩
  obtain ⟨time, found⟩ := (Report.find_of_record plain eq).1
  rw [reports] at found
  exact ⟨recorded, _, rfl, found, said ▸ get?_entry_status r time⟩

theorem Recorded.keeps {r : Condition.Report} {conditions after : Json} {type other : String}
    {holds : Bool} (h : Recorded r conditions after) (reports : r.type = other)
    (plain : ∃ text, r.status = .str text) (ne : type ≠ other) (shown : Shows conditions type holds) :
    Shows after type holds := by
  obtain ⟨now, entries, recorded, rfl, rfl, eq⟩ := h
  obtain ⟨_, condition, same, found, said⟩ := shown
  cases same
  have kept := (Report.find_of_record ⟨⟨other, reports⟩, plain⟩ eq).2 type (by simp [reports, ne])
  exact ⟨recorded, condition, rfl, kept.trans found, said⟩

theorem Shows.said {fields : Fields} {conditions : Json} {type : String} {holds : Bool}
    (h : Shows conditions type holds) (listed : fields.lookup "conditions" = some conditions) :
    Says (.obj fields) type holds := by
  obtain ⟨entries, condition, rfl, found, said⟩ := h
  refine ⟨condition, ?_, said⟩
  have conditions : conditionsOf (.obj fields) = entries := by
    unfold conditionsOf
    have member : (Json.obj fields).get? "conditions" = some (.arr entries) := listed
    rw [member]
  rw [conditionOf, conditions]
  exact found

theorem silent_clock (type : Json) : Silent (fun _ => True) (clock type) :=
  Silent.context.bind fun _ _ => .pure trivial

theorem silent_report (r : Condition.Report) (conditions : Json) :
    Silent (Recorded r conditions) (report r conditions) := by
  apply (silent_clock r.type).bind
  intro now _
  refine Counts.ofExcept ⟨rfl, rfl, ?_⟩
  intro after updated
  cases conditions with
  | arr entries =>
    obtain ⟨recorded, eq, done⟩ := ok_of_bind updated
    cases done
    exact ⟨_, entries, recorded, rfl, rfl, eq⟩
  | _ =>
    obtain ⟨items, _, refused⟩ := ok_of_bind updated
    cases items <;> cases refused

theorem silent_reportApplied [Redaction.VisitingOrder] (t : Topology) (applied : Applied)
    (counted conditions : Json) :
    Silent (fun reported => Shows reported.1 readyType reported.2)
      (reportApplied t applied counted conditions) := by
  have well : Silent (fun reported : Json × Bool => Shows reported.1 readyType reported.2)
      (reportApplied t (.created .null) counted conditions) := by
    apply (silent_report _ _).bind
    intro first _
    apply (Silent.ofExcept _).bind
    intro isReady _
    apply (silent_report _ _).bind
    intro second recorded
    exact .pure (recorded.shows rfl rfl)
  cases applied with
  | failed fault attempt =>
    apply (silent_report _ _).bind
    intro first _
    apply (silent_report _ _).bind
    intro second recorded
    exact .pure (recorded.shows rfl rfl)
  | _ => exact well

/-- A status was composed, with its readiness counted once; or it was not, with nothing counted. -/
inductive Announces : List Exchange → Except Fault Json → List Metric → Prop
  | failed (fault : Fault) : Announces [] (.error fault) []
  | composed {status : Json} {ready : Bool} (said : Says status readyType ready) :
      Announces [] (.ok status) [.readiness Cluster.storageKind (readinessLabel ready)]

theorem counts_statusAfter [Redaction.VisitingOrder] (t : Topology) (applied : Applied)
    (conditions : Json) :
    Counts Announces (statusAfter t applied conditions) := by
  apply Counts.silent_bind (.ofExcept _) .failed
  intro counted _
  apply Counts.silent_bind (silent_reportApplied t applied counted conditions) .failed
  intro ⟨reported, isReady⟩ shown
  apply Counts.silent_bind (silent_report _ _) .failed
  intro after recorded
  have stays : Shows after readyType isReady :=
    recorded.keeps rfl ⟨_, rfl⟩ (by simp [readyType, specInvalidType]) shown
  apply Counts.count_bind
  exact .pure (.composed (stays.said rfl))

/-! From an outcome of applying to the end of the pass. -/

/-- The faults that are counted when the directive for an outcome is chosen. -/
def directiveFaults : Applied → List Metric
  | .failed fault _ => [.error Cluster.storageKind fault.kind]
  | _ => []

/-- The directive for an outcome was chosen, or it was not, with nothing counted. -/
inductive Directs (s : Settings δ) (applied : Applied) :
    List Exchange → Except Fault (Directive δ) → List Metric → Prop
  | failed (fault : Fault) : Directs s applied [] (.error fault) []
  | chosen : Directs s applied [] (.ok (directiveOf s applied)) (directiveFaults applied)

theorem counts_directiveFor [Redaction.VisitingOrder] (s : Settings δ) (resource : Json)
    (applied : Applied) :
    Counts (Directs s applied) (directiveFor s resource applied) := by
  apply Counts.silent_bind (.ofExcept _) .failed
  intro metadata _
  apply Counts.silent_bind (.ofExcept _) .failed
  intro name _
  cases applied with
  | created live => exact .emit_bind (.pure .chosen)
  | patched patch live => exact .emit_bind (.pure .chosen)
  | unchanged live => exact .pure .chosen
  | conflicted fault attempt => exact .pure .chosen
  | failed fault attempt => exact .count_bind (.emit_bind (.pure .chosen))

/-- What is counted between the start of a pass and its end. -/
structure Balances (tr : List Exchange) (outcome : Except Fault (Directive δ))
    (counted : List Metric) : Prop where
  results : results counted = []
  durations : durations counted = []
  faults : ∀ d, outcome = .ok d → (Erred counted ↔ d.IsError)
  readiness : ∀ status, Sends tr status → ∃ ready, Says status readyType ready ∧
    readinesses counted = [(Cluster.storageKind, readinessLabel ready)]

variable {tr front : List Exchange} {outcome : Except Fault (Directive δ)}
  {counted before : List Metric}

/-- Nothing was sent yet when the pass ended with a fault. -/
theorem Balances.of_error {fault : Fault} (results : StorageController.results counted = [])
    (durations : StorageController.durations counted = []) (unsent : ∀ status, ¬ Sends tr status) :
    Balances tr (.error fault : Except Fault (Directive δ)) counted where
  results
  durations
  faults := by simp
  readiness := fun status sent => absurd sent (unsent status)

/-- A metric that applying counts. -/
def OfApplying (m : Metric) : Prop :=
  (∃ kind resource, m = .drift kind resource) ∨ ∃ outcome, m = .applied outcome

theorem nothing_of_applying (only : ∀ m ∈ counted, OfApplying m) :
    results counted = [] ∧ durations counted = [] ∧ readinesses counted = [] ∧ ¬ Erred counted := by
  refine ⟨List.filterMap_eq_nil_iff.mpr ?_, List.filterMap_eq_nil_iff.mpr ?_,
    List.filterMap_eq_nil_iff.mpr ?_, ?_⟩
  · intro m mem
    obtain ⟨_, _, rfl⟩ | ⟨_, rfl⟩ := only m mem <;> rfl
  · intro m mem
    obtain ⟨_, _, rfl⟩ | ⟨_, rfl⟩ := only m mem <;> rfl
  · intro m mem
    obtain ⟨_, _, rfl⟩ | ⟨_, rfl⟩ := only m mem <;> rfl
  · intro ⟨fault, mem⟩
    obtain ⟨_, _, no⟩ | ⟨_, no⟩ := only _ mem <;> cases no

/-- What was asked and counted when a topology was applied makes no difference. -/
theorem Balances.after_applying (h : Balances tr outcome counted)
    (asked : ∀ e ∈ front, ¬ e.request.IsStatus) (only : ∀ m ∈ before, OfApplying m) :
    Balances (front ++ tr) outcome (before ++ counted) := by
  obtain ⟨noResult, noDuration, noReadiness, noFault⟩ := nothing_of_applying only
  refine ⟨?_, ?_, ?_, ?_⟩
  · rw [results_append, noResult, h.results, List.append_nil]
  · rw [durations_append, noDuration, h.durations, List.append_nil]
  · intro d ended
    have later : Erred (before ++ counted) ↔ Erred counted :=
      erred_append.trans (or_iff_right noFault)
    exact later.trans (h.faults d ended)
  · intro status ⟨ns, name, reply, sent⟩
    rw [readinesses_append, noReadiness, List.nil_append]
    rcases List.mem_append.mp sent with early | late
    · exact absurd ⟨ns, name, status, rfl⟩ (asked _ early)
    · exact h.readiness status ⟨ns, name, reply, late⟩

theorem nothing_of_faults
    (only : ∀ m ∈ counted, ∃ fault, m = .error Cluster.storageKind fault) :
    results counted = [] ∧ durations counted = [] ∧ readinesses counted = [] ∧
      appliedOutcomes counted = [] := by
  refine ⟨List.filterMap_eq_nil_iff.mpr ?_, List.filterMap_eq_nil_iff.mpr ?_,
    List.filterMap_eq_nil_iff.mpr ?_, List.filterMap_eq_nil_iff.mpr ?_⟩
  all_goals
    intro m mem
    obtain ⟨fault, rfl⟩ := only m mem
    rfl

theorem erred_of_faults
    (only : ∀ m ∈ counted, ∃ fault, m = .error Cluster.storageKind fault) :
    Erred counted ↔ counted ≠ [] := by
  constructor
  · intro ⟨fault, mem⟩
    exact List.ne_nil_of_mem mem
  · intro nonempty
    obtain ⟨m, mem⟩ := List.exists_mem_of_ne_nil counted nonempty
    obtain ⟨fault, rfl⟩ := only m mem
    exact ⟨fault, mem⟩

/-- The end of a pass: nothing but the status is asked for, and no outcome of applying is counted. -/
structure Concludes (tr : List Exchange) (outcome : Except Fault (Directive δ))
    (counted : List Metric) : Prop where
  balances : Balances tr outcome counted
  statuses : ∀ e ∈ tr, e.request.IsStatus
  outcomes : appliedOutcomes counted = []

theorem concludes_of_error {fault : Fault} (results : results counted = [])
    (durations : durations counted = []) (outcomes : appliedOutcomes counted = []) :
    Concludes [] (.error fault : Except Fault (Directive δ)) counted where
  balances := .of_error results durations (by simp [Sends])
  statuses := by simp
  outcomes

/-- A status is written when its readiness has been counted, with a fault if the directive is one that
follows an error. -/
theorem Writes.concludes {status : Json} {directive : Directive δ} {ready : Bool}
    (h : Writes status directive tr outcome counted) (said : Says status readyType ready)
    (noResult : results before = []) (noDuration : durations before = [])
    (noOutcome : appliedOutcomes before = []) (erred : Erred before ↔ directive.IsError)
    (announced : readinesses before = [(Cluster.storageKind, readinessLabel ready)]) :
    Concludes tr outcome (before ++ counted) := by
  obtain ⟨noResult', noDuration', noReadiness, noOutcome'⟩ := nothing_of_faults h.faults
  refine ⟨⟨?_, ?_, ?_, ?_⟩, ?_, ?_⟩
  · rw [results_append, noResult, noResult', List.append_nil]
  · rw [durations_append, noDuration, noDuration', List.append_nil]
  · intro d ended
    rw [erred_append, erred, erred_of_faults h.faults, h.directed d ended]
  · intro sent ⟨ns, name, reply, mem⟩
    obtain ⟨_, _, same⟩ := h.only _ mem
    cases same
    have once : readinesses (before ++ counted) = [(Cluster.storageKind, readinessLabel ready)] := by
      rw [readinesses_append, announced, noReadiness, List.append_nil]
    exact ⟨ready, said, once⟩
  · intro e mem
    obtain ⟨ns, name, asked⟩ := h.only e mem
    exact ⟨ns, name, status, asked⟩
  · rw [appliedOutcomes_append, noOutcome, noOutcome', List.append_nil]

theorem erred_directiveFaults (s : Settings δ) (applied : Applied) :
    Erred (directiveFaults applied) ↔ (directiveOf s applied).IsError := by
  cases applied <;> simp [Erred, directiveFaults, directiveOf, Directive.IsError]

theorem faults_directiveFaults (applied : Applied) :
    ∀ m ∈ directiveFaults applied, ∃ fault, m = .error Cluster.storageKind fault := by
  cases applied <;> simp [directiveFaults]

/-- The status after an outcome is composed and written. -/
theorem counts_writeOutcome [Redaction.VisitingOrder] (s : Settings δ) (resource conditions : Json)
    (t : Topology) (applied : Applied) :
    Counts (fun tr outcome counted => Concludes tr outcome (directiveFaults applied ++ counted))
      (statusAfter t applied conditions >>= fun status =>
        writeStatus resource status (directiveOf s applied)) := by
  obtain ⟨noResult, noDuration, noReadiness, noOutcome⟩ :=
    nothing_of_faults (faults_directiveFaults applied)
  refine (counts_statusAfter t applied conditions).bind ?_ ?_
  · intro tr fault counted announces
    cases announces
    rw [List.append_nil]
    exact concludes_of_error noResult noDuration noOutcome
  · intro tr status counted announces
    cases announces with
    | @composed status ready said =>
      refine (counts_writeStatus resource status _).mono ?_
      intro tr outcome counted writes
      rw [List.nil_append, ← List.append_assoc]
      apply writes.concludes said
      · rw [results_append, noResult]
        rfl
      · rw [durations_append, noDuration]
        rfl
      · rw [appliedOutcomes_append, noOutcome]
        rfl
      · rw [erred_append, ← erred_directiveFaults s applied]
        simp [Erred]
      · rw [readinesses_append, noReadiness]
        rfl

/-- What a pass asks and counts after its resource was read: a topology is applied before it concludes,
or none is. -/
def Handles [Redaction.VisitingOrder] (resource : Json) (tr : List Exchange)
    (outcome : Except Fault (Directive δ)) (counted : List Metric) : Prop :=
  Concludes tr outcome counted ∨
    Balances tr outcome counted ∧ ∃ t applying rest applied c c', tr = applying ++ rest ∧
      Topology.ofResource resource = .ok t ∧ Ends (apply t resource) c applying applied c' ∧
      appliedOutcomes counted = appliedOutcomes (appliedMetrics applied)

theorem ofApplying_of_counts {outcome : Except Fault Applied}
    (h : CountsApplied outcome counted) : ∀ m ∈ counted, OfApplying m := by
  obtain ⟨drifts, areDrifts, rfl⟩ := h
  intro m mem
  rcases List.mem_append.mp mem with drift | last
  · exact Or.inl (areDrifts m drift)
  · cases outcome with
    | ok applied => exact Or.inr ⟨_, List.mem_singleton.mp last⟩
    | error fault => cases last

theorem counts_apply [Redaction.VisitingOrder] (t : Topology) (owner : Json) :
    Counts (fun tr outcome counted => CountsApplied outcome counted ∧
      (∀ e ∈ tr, ¬ e.request.IsStatus) ∧ ∃ c c', Ends (apply t owner) c tr outcome c')
      (apply t owner) := by
  intro c tr outcome c' ends
  obtain ⟨way, counted, counts, grows⟩ := ends.of_apply
  exact ⟨counted, grows, counts, way.not_status, c, c', ends⟩

theorem Concludes.handles [Redaction.VisitingOrder] {resource : Json} {t : Topology}
    {applied : Except Fault Applied} {c c' : Context} (h : Concludes tr outcome counted)
    (accepted : Topology.ofResource resource = .ok t) (counts : CountsApplied applied before)
    (asked : ∀ e ∈ front, ¬ e.request.IsStatus)
    (ends : Ends (apply t resource) c front applied c') :
    Handles resource (front ++ tr) outcome (before ++ counted) := by
  have once : appliedOutcomes (before ++ counted) = appliedOutcomes (appliedMetrics applied) := by
    rw [appliedOutcomes_append, h.outcomes, List.append_nil, counts.outcomes]
  have balances := h.balances.after_applying asked (ofApplying_of_counts counts)
  exact Or.inr ⟨balances, t, front, tr, applied, c, c', rfl, accepted, ends, once⟩

theorem counts_applyAndReport [Redaction.VisitingOrder] {s : Settings δ}
    {resource conditions : Json} {t : Topology} (accepted : Topology.ofResource resource = .ok t) :
    Counts (Handles resource) (applyAndReport s resource conditions t) := by
  have prepared : Silent (fun _ => True) (span "synthesize_stateful_set" Cluster.storageKind []
      fun _ => (pure () : Pass Unit)) := Counts.span fun _ => Silent.pure trivial
  apply Counts.silent_bind prepared (fun _ => Or.inl (concludes_of_error rfl rfl rfl))
  intro _ _
  refine (Counts.span fun _ => counts_apply t resource).bind ?_ ?_
  · intro tr fault counted applying
    obtain ⟨counts, asked, c, c', ends⟩ := applying
    have nothing : Concludes [] (.error fault : Except Fault (Directive δ)) [] :=
      concludes_of_error rfl rfl rfl
    simpa using nothing.handles accepted counts asked ends
  · intro tr applied counted applying
    obtain ⟨counts, asked, c, c', ends⟩ := applying
    -- What follows is only the end of the pass.
    refine Counts.mono (P := Concludes) ?_ fun tr' outcome counted' concluded =>
      concluded.handles accepted counts asked ends
    refine (counts_directiveFor s resource applied).bind ?_ ?_
    · intro tr fault counted directs
      cases directs
      exact concludes_of_error rfl rfl rfl
    · intro tr directive counted directs
      cases directs
      have writes := counts_writeOutcome s resource conditions t applied
      cases applied with
      | conflicted fault attempt =>
        have balances : Balances [] (.ok (.requeueAfter s.conflictRequeueDelay)) [] :=
          ⟨rfl, rfl, by simp [Erred, Directive.IsError], by simp [Sends]⟩
        exact .pure ⟨balances, by simp, rfl⟩
      | _ => exact writes

theorem counts_reportInvalid [Redaction.VisitingOrder] (resource conditions : Json)
    (fault : Fault) :
    Counts Concludes (reportInvalid resource conditions fault : Pass (Directive δ)) := by
  have early : ∀ fault, Concludes [] (.error fault : Except Fault (Directive δ)) [] :=
    fun _ => concludes_of_error rfl rfl rfl
  apply Counts.silent_bind (.ofExcept _) early
  intro metadata _
  apply Counts.silent_bind (.ofExcept _) early
  intro generation _
  apply Counts.count_bind
  have late : ∀ failed, Concludes [] (.error failed : Except Fault (Directive δ))
      [.error Cluster.storageKind fault.kind] := fun _ => concludes_of_error rfl rfl rfl
  apply Counts.silent_bind (.log _ _ _ _) late
  intro _ _
  apply Counts.emit_bind
  apply Counts.silent_bind (silent_report _ _) late
  intro first _
  apply Counts.silent_bind (silent_report _ _) late
  intro second recorded
  apply Counts.count_bind
  refine (counts_writeStatus resource _ _).mono ?_
  intro tr outcome counted writes
  have shown : Shows second readyType false := recorded.shows rfl rfl
  have erred : Erred [.error Cluster.storageKind fault.kind,
      .readiness Cluster.storageKind (readinessLabel false)] := ⟨_, List.mem_cons_self⟩
  have isError : (Directive.requeueError (some fault) : Directive δ).IsError := ⟨_, rfl⟩
  exact writes.concludes (shown.said rfl) rfl rfl rfl (iff_of_true erred isError) rfl

theorem concludes_done : Concludes [] (.ok (.done : Directive δ)) [] :=
  ⟨⟨rfl, rfl, by simp [Erred, Directive.IsError], by simp [Sends]⟩, by simp, rfl⟩

theorem counts_reconcileResource [Redaction.VisitingOrder] (s : Settings δ)
    (identity resource : Json) :
    Counts (Handles resource) (reconcileResource s identity resource) := by
  have unhandled : ∀ fault, Handles resource [] (.error fault : Except Fault (Directive δ)) [] :=
    fun _ => Or.inl (concludes_of_error rfl rfl rfl)
  apply Counts.silent_bind (.ofExcept _) unhandled
  intro metadata _
  apply Counts.silent_bind (.ofExcept _) unhandled
  intro deleted _
  split
  next =>
    apply Counts.silent_bind (.log _ _ _ _) unhandled
    intro _ _
    exact .pure (Or.inl concludes_done)
  next =>
    apply Counts.emit_bind
    apply Counts.silent_bind (.ofExcept _) unhandled
    intro status _
    apply Counts.silent_bind (.ofExcept _) unhandled
    intro conditions _
    split
    next t accepted => exact counts_applyAndReport accepted
    next =>
      refine (counts_reportInvalid resource conditions _).mono ?_
      intro tr outcome counted concludes
      exact Or.inl concludes
    next => exact .throw (unhandled _)

end Pass

end StorageController
