import StorageController.Proofs.Cluster.Responsive
import StorageController.Proofs.Pass.WrittenStatus

namespace StorageController

open Json Condition

variable {δ σ : Type} {answer : Request → σ → Reply × σ}
  {storage? set? : σ → Identity → Option Json} {t : Topology} {resource : Json}

/-- The call succeeded, or it looked for a StatefulSet that is not there. -/
def Exchange.faultFree (e : Exchange) : Bool :=
  match e.reply, e.request with
  | .ok _, _ => true
  | .error (.notFound _), .readSet _ _ => true
  | .error _, _ => false

theorem lookup_status_guarded (t : Topology) (live version : Json) :
    ∃ patch, Managed.guarded version (t.patchFields live) = .obj patch ∧
      patch.lookup "status" = none := by
  have distinct := ((wellFormed_obj _).mp (managedFields_wellFormed t)).1
  have unnamed : (t.patchFields live).lookup "status" = none := by
    rw [Topology.patchFields, lookup_diffFields _ _ distinct]
    rfl
  by_cases truthy : version.truthy = true
  · refine ⟨_, guarded_eq _ truthy, ?_⟩
    rw [lookup_setField, if_neg (by decide), unnamed]
  · exact ⟨_, if_neg truthy, unnamed⟩

/-- The number of ready replicas is read from the status alone. -/
theorem readyCount_congr {live other : Json} (h : HasMetadata live) (h' : HasMetadata other)
    (same : live.get? "status" = other.get? "status") :
    Pass.readyCount live = Pass.readyCount other := by
  have counted : ∀ {live : Json}, HasMetadata live → Pass.readyCount live =
      (((live.get? "status").getD .null).orElse (.obj [])).lookupOr "readyReplicas" (.int 0) := by
    rintro live ⟨metadata, hm⟩
    obtain ⟨fields, rfl, mem⟩ := eq_obj_of_get? hm
    have present : (Json.obj fields).orElse (.obj []) = .obj fields := by
      cases fields with
      | nil => cases mem
      | cons field rest => rfl
    rw [Pass.readyCount, present, Pass.lookupOr_obj]
    rfl
  rw [counted h, counted h', same]

/-- A StatefulSet that needs no patch, or can be patched. -/
def Patchable (t : Topology) (live : Json) : Prop :=
  Managed.patch? t.manifest live = none ∨ HasMetadata live

/-- What is seen of the StatefulSet when its topology is applied without faults: it is there
afterwards as it was last seen, and if it was there before, then the replicas that are ready are
counted the same. -/
structure Seen (answer : Request → σ → Reply × σ) (storage? set? : σ → Identity → Option Json)
    (t : Topology) (rest : List Exchange) (applied : Except Fault Applied) (live : Json)
    (before after last : σ) (later : List (Turn σ)) : Prop where
  further : Turns answer Eq after later last
  later_eq : later.map Turn.exchange = rest
  well : ∃ a, applied = .ok a ∧ a.fault? = none ∧ a.live? = some live
  patchable : Patchable t live
  present : set? after ⟨t.ns, t.name⟩ = some live
  storages : ∀ i, storage? after i = storage? before i
  count : ∀ old, set? before ⟨t.ns, t.name⟩ = some old → Patchable t old →
    Pass.readyCount live = Pass.readyCount old

theorem ok_of_faultFree {request : Request} {reply : Reply}
    (flawless : Exchange.faultFree ⟨request, reply⟩ = true)
    (other : ∀ ns name, request ≠ .readSet ns name) : ∃ object, reply = .ok object := by
  cases reply with
  | ok object => exact ⟨object, rfl⟩
  | error fault =>
    cases request with
    | readSet ns name => exact absurd rfl (other ns name)
    | _ => cases fault <;> cases flawless

theorem seen_of_application {turns : List (Turn σ)} {applying rest : List Exchange}
    {applied : Except Fault Applied} {before last : σ}
    (server : Responsive answer storage? set?) (run : Turns answer Eq before turns last)
    (eq : turns.map Turn.exchange = applying ++ rest)
    (way : Application t resource applying applied) (owned : StorageShaped resource)
    (flawless : ∀ e ∈ applying, e.faultFree = true)
    (sound : (∃ a, applied = .ok a) ∨
      ∀ old, set? before ⟨t.ns, t.name⟩ = some old → Patchable t old) :
    ∃ live after later,
      Seen answer storage? set? t rest applied live before after last later := by
  cases way with
  | @unread fault present =>
    have missing := flawless _ List.mem_cons_self
    cases fault with
    | notFound message => exact absurd rfl (present message)
    | _ => cases missing
  | unowned referred =>
    obtain ⟨fields, metadata, rfl, hm⟩ := owned.obj
    cases (ownerReference_obj hm).symm.trans referred
  | @creating message reference reply referred =>
    obtain ⟨_, reading, rfl, read, rfl, eq₁, run₁⟩ := run.uncons eq
    rw [server.readSet_state] at run₁
    obtain ⟨_, later, rfl, written, rfl, eq₂, run₂⟩ := run₁.uncons eq₁
    have absent := server.readAbsent _ _ _ _ read
    obtain ⟨created, rfl⟩ :=
      ok_of_faultFree (flawless _ (List.mem_cons_of_mem _ List.mem_cons_self)) (by simp)
    obtain ⟨metadata, there, storages⟩ := server.create _ _ _ _ _ rfl written
    refine ⟨created, _, later, run₂, eq₂, ⟨_, rfl, rfl, rfl⟩, Or.inr metadata, there, storages, ?_⟩
    intro old present
    cases absent.symm.trans present
  | @unchanged live same =>
    obtain ⟨_, later, rfl, read, rfl, eq₁, run₁⟩ := run.uncons eq
    rw [server.readSet_state] at run₁
    have present := server.readSet _ _ _ _ read
    refine ⟨live, _, later, run₁, eq₁, ⟨_, rfl, rfl, rfl⟩, Or.inl same, present, fun _ => rfl, ?_⟩
    intro old there _
    cases present.symm.trans there
    rfl
  | @unversioned live fields fault differ versioned =>
    obtain ⟨_, later, rfl, read, _⟩ := run.uncons eq
    rcases sound with ⟨_, no⟩ | patchable
    · cases no
    rcases patchable live (server.readSet _ _ _ _ read) with same | ⟨metadata, hm⟩
    · cases same.symm.trans differ
    · obtain ⟨_, rfl, mem⟩ := eq_obj_of_get? hm
      cases (versionOf_obj mem).symm.trans versioned
  | @patching live version patch reply differ versioned =>
    obtain ⟨_, reading, rfl, read, rfl, eq₁, run₁⟩ := run.uncons eq
    rw [server.readSet_state] at run₁
    obtain ⟨_, later, rfl, written, rfl, eq₂, run₂⟩ := run₁.uncons eq₁
    have present := server.readSet _ _ _ _ read
    obtain ⟨patched, rfl⟩ :=
      ok_of_faultFree (flawless _ (List.mem_cons_of_mem _ List.mem_cons_self)) (by simp)
    obtain ⟨_, rfl⟩ := patch?_eq_some_iff.mp differ
    obtain ⟨members, guarded, unnamed⟩ := lookup_status_guarded t live version
    rw [guarded] at written run₂ ⊢
    obtain ⟨metadata, there, keeps, storages⟩ := server.patch _ _ _ _ _ _ present written
    refine ⟨patched, _, later, run₂, eq₂, ⟨_, rfl, rfl, rfl⟩, Or.inr metadata, there, storages, ?_⟩
    intro old present' patchable
    cases present.symm.trans present'
    rcases patchable with same | metadata'
    · cases same.symm.trans differ
    · exact readyCount_congr metadata metadata' (keeps unnamed)

section

variable [Redaction.VisitingOrder]

theorem InvalidStatus.again {clock later : Clock} {fault : Fault} {status status' after : Json}
    (written : InvalidStatus clock resource fault status) (owned : StorageShaped resource)
    (change : StatusWritten resource status after)
    (again : InvalidStatus later after fault status') : status' = status := by
  obtain ⟨conditions, recorded, rfl⟩ := written
  obtain ⟨conditions', recorded', rfl⟩ := again
  have listed : conditionsIn after = conditions := change.conditions (by simp) rfl
  have generation : after.path? ["metadata", "generation"] =
      resource.path? ["metadata", "generation"] :=
    change.path?_metadata owned (by simp [declaredKeys])
  rw [generation, listed, recordAll_again (invalidReports_separate _ _) owned.entries recorded]
    at recorded'
  cases recorded'
  rw [generation]

/-- An outcome without a fault is reported in the same words again, as long as the same replicas are
counted. -/
theorem OutcomeStatus.again {clock : Clock} {applied other : Applied} {status after : Json}
    (written : OutcomeStatus clock resource t applied status) (owned : StorageShaped resource)
    (change : StatusWritten resource status after) (well : applied.fault? = none)
    (well' : other.fault? = none)
    (same : Pass.readyCount (other.live?.getD .null) =
      Pass.readyCount (applied.live?.getD .null)) (later : Clock) :
    OutcomeStatus later after t other status := by
  obtain ⟨counted, reports, conditions, count, reported, recorded, rfl⟩ := written
  have listed : conditionsIn after = conditions := change.conditions (by simp) rfl
  refine ⟨counted, reports, conditions, same.trans count, ?_, ?_, rfl⟩
  · cases reported with
    | failed => cases well
    | applied _ enough => exact .applied well' enough
  · rw [listed]
    exact recordAll_again reported.separate owned.entries recorded _

/-- The resource is stored under the namespace and name in its own metadata. -/
def Placed (ns name resource : Json) : Prop :=
  (resource.path? ["metadata", "namespace"]).getD "default" = ns ∧
    (resource.path? ["metadata", "name"]).getD .null = name

omit [Redaction.VisitingOrder] in
theorem statusRequest_of_placed {ns name : Json} (placed : Placed ns name resource)
    (status : Json) : statusRequest resource status = .patchStatus ns name status := by
  obtain ⟨rfl, rfl⟩ := placed
  rfl

omit [Redaction.VisitingOrder] in
theorem StatusWritten.placed {ns name status after : Json}
    (change : StatusWritten resource status after) (owned : StorageShaped resource)
    (placed : Placed ns name resource) : Placed ns name after := by
  rw [Placed, change.path?_metadata owned (by simp [declaredKeys]),
    change.path?_metadata owned (by simp [declaredKeys])]
  exact placed

theorem course_of_pass {s : Settings δ} {ns name : Json} {c after : Context} {state last : σ}
    {turns : List (Turn σ)} {outcome : Except Fault (Directive δ)}
    (server : Responsive answer storage? set?) (run : Turns answer Eq state turns last)
    (ends : (Pass.reconcile s ns name).Ends c (turns.map Turn.exchange) outcome after)
    (stored : storage? state ⟨ns, name⟩ = some resource) (owned : StorageShaped resource)
    (flawless : ∀ turn ∈ turns, turn.exchange.faultFree = true) :
    ∃ rest later, turns.map Turn.exchange = ⟨.readStorage ns name, .ok resource⟩ :: rest ∧
      Turns answer Eq state later last ∧ later.map Turn.exchange = rest ∧
      (∀ e ∈ rest, e.faultFree = true) ∧ Course c.clock resource rest := by
  obtain ⟨reply, rest, eq, _, course⟩ := ends.course_of_reconcile
  have each : ∀ e ∈ turns.map Turn.exchange, e.faultFree = true := by simpa using flawless
  rw [eq] at each
  obtain ⟨first, others⟩ := List.forall_mem_cons.mp each
  obtain ⟨object, rfl⟩ := ok_of_faultFree first (by simp)
  obtain ⟨_, later, rfl, read, _, later_eq, further⟩ := run.uncons eq
  rw [server.readStorage_state] at further
  cases stored.symm.trans (server.readStorage _ _ _ _ read)
  exact ⟨rest, later, eq, further, later_eq, others, course _ rfl owned⟩

omit [Redaction.VisitingOrder] in
theorem change_of_status {ns name status : Json} {reply : Reply} {before last : σ}
    {turns : List (Turn σ)} (server : Responsive answer storage? set?)
    (run : Turns answer Eq before turns last)
    (eq : turns.map Turn.exchange = [⟨.patchStatus ns name status, reply⟩])
    (flawless : Exchange.faultFree ⟨.patchStatus ns name status, reply⟩ = true)
    (stored : storage? before ⟨ns, name⟩ = some resource) :
    ∃ after, storage? last ⟨ns, name⟩ = some after ∧ StatusWritten resource status after ∧
      ∀ i, set? last i = set? before i := by
  obtain ⟨object, rfl⟩ := ok_of_faultFree flawless (by simp)
  obtain ⟨_, rest, rfl, answered, rfl, nothing, ending⟩ := run.uncons eq
  obtain rfl := List.map_eq_nil_iff.mp nothing
  obtain ⟨found, after, there, change, stored', sets⟩ := server.status _ _ _ _ _ answered
  cases stored.symm.trans there
  cases ending with
  | done act =>
    subst act
    exact ⟨after, stored', change, sets⟩

/-- What stands behind a status that was written: the resource is malformed, or its topology was
applied and the StatefulSet is there as it was seen. -/
inductive Grounded (set? : σ → Identity → Option Json) (clock : Clock) (resource status : Json)
    (reached : σ) : Prop
  | malformed {message : String}
      (rejected : Topology.ofResource resource = .error (.invalid message))
      (written : InvalidStatus clock resource (.invalid message) status) :
      Grounded set? clock resource status reached
  | reported {t : Topology} {applied : Applied} {live : Json}
      (accepted : Topology.ofResource resource = .ok t) (well : applied.fault? = none)
      (sight : applied.live? = some live) (present : set? reached ⟨t.ns, t.name⟩ = some live)
      (patchable : Patchable t live) (written : OutcomeStatus clock resource t applied status) :
      Grounded set? clock resource status reached

omit [Redaction.VisitingOrder] in
theorem wellFormed_of_atLeast {n : Int} {counted : Json} {isReady : Bool}
    (h : Pass.atLeast n counted = .ok isReady) : counted.wellFormed = true := by
  cases counted with
  | arr items => cases h
  | obj fields => cases h
  | _ => simp [wellFormed]

omit [Redaction.VisitingOrder] in
theorem wellFormed_orElse {j default : Json} (h : j.wellFormed = true)
    (hd : default.wellFormed = true) : (j.orElse default).wellFormed = true := by
  rw [orElse]
  split
  · exact h
  · exact hd

theorem Grounded.listed {clock : Clock} {status : Json} {reached : σ}
    (h : Grounded set? clock resource status reached) (owned : StorageShaped resource) :
    StatusListed status := by
  cases h with
  | malformed _ written => exact written.listed owned
  | reported _ _ _ _ _ written => exact written.listed owned

/-- A grounded status once more changes nothing. -/
theorem Grounded.merge_again {clock : Clock} {status : Json} {reached : σ}
    (h : Grounded set? clock resource status reached) (owned : StorageShaped resource)
    (wf : resource.wellFormed = true) (target : Json) :
    (target.merge status).merge status = target.merge status := by
  obtain ⟨metadata, hm⟩ := owned.metadata
  have inside : (Json.obj metadata).wellFormed = true := get?_wellFormed wf hm
  obtain ⟨fields, rfl, mem⟩ := eq_obj_of_get? hm
  have generation :
      ((((metadata.lookup "generation").getD .null).orElse (.int 0))).wellFormed = true :=
    wellFormed_orElse (wellFormed_getD inside rfl) rfl
  cases h with
  | malformed rejected written =>
    obtain ⟨conditions, _, rfl⟩ := written
    rw [path?_metadata _ mem, merge_obj, merge_obj]
    refine congrArg Json.obj (mergeFields_again (by simp) ?_)
    simp only [List.forall_mem_cons]
    exact ⟨fun value => Json.merge_again generation, merge_again_of_not_obj (by simp), by simp⟩
  | reported accepted well sight present patchable written =>
    obtain ⟨counted, reports, conditions, _, reported, _, rfl⟩ := written
    rw [Topology.generation_of_ofResource hm accepted, merge_obj, merge_obj]
    refine congrArg Json.obj (mergeFields_again (by simp) ?_)
    simp only [List.forall_mem_cons]
    refine ⟨fun value => Json.merge_again generation, ?_, merge_again_of_not_obj (by simp),
      by simp⟩
    cases reported with
    | failed => cases well
    | applied _ enough => exact fun value => Json.merge_again (wellFormed_of_atLeast enough)

/-- The rest of a pass that writes a status: the status is stored, and it is grounded. -/
theorem grounded_of_written {ns name status : Json} {clock : Clock} {front : List Exchange}
    {reply : Reply} {state last : σ} {turns : List (Turn σ)}
    (server : Responsive answer storage? set?) (run : Turns answer Eq state turns last)
    (eq : turns.map Turn.exchange = front ++ [⟨.patchStatus ns name status, reply⟩])
    (stored : storage? state ⟨ns, name⟩ = some resource) (owned : StorageShaped resource)
    (flawless : ∀ e ∈ front ++ [⟨.patchStatus ns name status, reply⟩], e.faultFree = true)
    (written : Written clock resource front status) :
    ∃ after, storage? last ⟨ns, name⟩ = some after ∧ StatusWritten resource status after ∧
      deleting resource = false ∧ Grounded set? clock resource status last := by
  obtain ⟨applying, writing⟩ := List.forall_mem_append.mp flawless
  have final := List.forall_mem_singleton.mp writing
  cases written with
  | malformed staying rejected written =>
    obtain ⟨after, there, change, _⟩ := change_of_status server run eq final stored
    exact ⟨after, there, change, staying, .malformed rejected written⟩
  | reported staying accepted way written =>
    obtain ⟨live, middle, later, seen⟩ :=
      seen_of_application server run eq way owned applying (Or.inl ⟨_, rfl⟩)
    obtain ⟨a, same, well, sight⟩ := seen.well
    cases same
    obtain ⟨after, there, change, sets⟩ := change_of_status server seen.further seen.later_eq final
      ((seen.storages _).trans stored)
    exact ⟨after, there, change, staying, .reported accepted well sight
      ((sets _).trans seen.present) seen.patchable written⟩

/-- What is seen of a StatefulSet behind a status leads to the same status again. -/
theorem Seen.again {rest : List Exchange} {outcome : Except Fault Applied} {applied : Applied}
    {live live' status after : Json} {clock : Clock} {reached middle last : σ}
    {further : List (Turn σ)}
    (seen : Seen answer storage? set? t rest outcome live' reached middle last further)
    (written : OutcomeStatus clock resource t applied status) (owned : StorageShaped resource)
    (change : StatusWritten resource status after) (well : applied.fault? = none)
    (sight : applied.live? = some live) (present : set? reached ⟨t.ns, t.name⟩ = some live)
    (patchable : Patchable t live) (later : Clock) :
    ∃ other, outcome = .ok other ∧ OutcomeStatus later after t other status := by
  obtain ⟨other, rfl, well', sight'⟩ := seen.well
  have counts := seen.count live present patchable
  refine ⟨other, rfl, written.again owned change well well' ?_ later⟩
  rw [sight, sight']
  exact counts

/-- The rest of a pass over a resource with a grounded status: the same status is written again. -/
theorem rewritten_of_grounded {clock later : Clock} {status after : Json} {rest : List Exchange}
    {reached last : σ} {turns : List (Turn σ)} (server : Responsive answer storage? set?)
    (run : Turns answer Eq reached turns last) (eq : turns.map Turn.exchange = rest)
    (owned : StorageShaped resource) (change : StatusWritten resource status after)
    (staying : deleting resource = false) (flawless : ∀ e ∈ rest, e.faultFree = true)
    (grounded : Grounded set? clock resource status reached) (course : Course later after rest) :
    ∃ front reply middle turns', rest = front ++ [⟨statusRequest after status, reply⟩] ∧
      (∀ e ∈ front, ¬ e.request.IsStatus) ∧ Turns answer Eq middle turns' last ∧
      turns'.map Turn.exchange = [⟨statusRequest after status, reply⟩] ∧
      ∀ i, storage? middle i = storage? reached i := by
  obtain ⟨owned', same, declares⟩ := declared_of_statusWritten change (grounded.listed owned) owned
  cases grounded with
  | malformed rejected written =>
    rw [← declares] at rejected
    cases course with
    | deleting leaving => cases (same.trans staying).symm.trans leaving
    | silent accepted => cases rejected.symm.trans accepted
    | written written' =>
      cases written' with
      | reported _ accepted => cases rejected.symm.trans accepted
      | malformed _ rejected' again =>
        cases rejected.symm.trans rejected'
        obtain rfl := written.again owned change again
        exact ⟨[], _, reached, turns, rfl, by simp, run, eq, fun _ => rfl⟩
  | @reported t applied live accepted well sight present patchable written =>
    rw [← declares] at accepted
    have patchable' : ∀ old, set? reached ⟨t.ns, t.name⟩ = some old → Patchable t old := by
      intro old there
      cases present.symm.trans there
      exact patchable
    cases course with
    | deleting leaving => cases (same.trans staying).symm.trans leaving
    | silent accepted' way unwritten =>
      cases accepted.symm.trans accepted'
      obtain ⟨live', middle, others, seen⟩ := seen_of_application server run
        (eq.trans (List.append_nil _).symm) way owned' flawless (Or.inr patchable')
      obtain ⟨other, rfl, again⟩ :=
        seen.again written owned change well sight present patchable later
      exact absurd again (unwritten other later status rfl)
    | written written' =>
      cases written' with
      | malformed _ rejected => cases accepted.symm.trans rejected
      | reported _ accepted' way again =>
        cases accepted.symm.trans accepted'
        obtain ⟨applying, _⟩ := List.forall_mem_append.mp flawless
        obtain ⟨live', middle, others, seen⟩ :=
          seen_of_application server run eq way owned' applying (Or.inr patchable')
        obtain ⟨other, same', expected⟩ :=
          seen.again written owned change well sight present patchable later
        cases same'
        obtain rfl := expected.unique again
        exact ⟨_, _, middle, others, rfl, way.not_status, seen.further, seen.later_eq,
          seen.storages⟩

omit [Redaction.VisitingOrder] in
theorem not_status_before {ns name : Json} {front : List Exchange}
    (unasked : ∀ e ∈ front, ¬ e.request.IsStatus) :
    ∀ request ∈ .readStorage ns name :: front.map Exchange.request, ¬ request.IsStatus := by
  refine List.forall_mem_cons.mpr ⟨by simp [Request.IsStatus], ?_⟩
  intro request mem
  obtain ⟨e, inFront, rfl⟩ := List.mem_map.mp mem
  exact unasked e inFront

/-- A pass without faults that writes a status leaves it behind grounded. -/
theorem grounded_of_pass {s : Settings δ} {ns name : Json} {state : σ} {c : Context}
    (server : Responsive answer storage? set?) (stored : storage? state ⟨ns, name⟩ = some resource)
    (owned : StorageShaped resource) (placed : Placed ns name resource)
    (flawless : ∀ turn ∈ ((Pass.reconcile s ns name).start c).turns answer state,
      turn.exchange.faultFree = true)
    (writes : ∃ request ∈ (passAt answer s ns name state c).2.2, request.IsStatus) :
    ∃ status asked after,
      (passAt answer s ns name state c).2.2 = asked ++ [.patchStatus ns name status] ∧
      (∀ request ∈ asked, ¬ request.IsStatus) ∧
      storage? (passAt answer s ns name state c).2.1 ⟨ns, name⟩ = some after ∧
      StatusWritten resource status after ∧ deleting resource = false ∧
      Grounded set? c.clock resource status (passAt answer s ns name state c).2.1 := by
  obtain ⟨rest, later, eq, run, later_eq, others, course⟩ := course_of_pass server
    (Calls.turns_of_run answer _ state) (Pass.ends_run answer (Pass.reconcile s ns name) c state)
    stored owned flawless
  have requests := Calls.requests_of_run answer ((Pass.reconcile s ns name).start c) state
  rw [eq, List.map_cons] at requests
  rw [passAt, ← requests] at writes ⊢
  have written : ∃ e ∈ rest, e.request.IsStatus := by
    obtain ⟨request, mem, isStatus⟩ := writes
    rcases List.mem_cons.mp mem with rfl | mem
    · simp [Request.IsStatus] at isStatus
    · obtain ⟨e, he, rfl⟩ := List.mem_map.mp mem
      exact ⟨e, he, isStatus⟩
  obtain ⟨front, status, reply, rfl, grounds⟩ := course.written_of_asked written
  rw [statusRequest_of_placed placed] at later_eq others ⊢
  obtain ⟨after, there, change, staying, grounded⟩ :=
    grounded_of_written server run later_eq stored owned others grounds
  exact ⟨status, .readStorage ns name :: front.map Exchange.request, after, by simp,
    not_status_before grounds.not_status, there, change, staying, grounded⟩

/-- A pass without faults over a resource with a grounded status writes the same status again. -/
theorem rewritten_of_pass {s : Settings δ} {ns name status after : Json} {state : σ} {c : Context}
    {clock : Clock} (server : Responsive answer storage? set?)
    (stored : storage? state ⟨ns, name⟩ = some after) (owned : StorageShaped resource)
    (placed : Placed ns name resource) (change : StatusWritten resource status after)
    (staying : deleting resource = false) (grounded : Grounded set? clock resource status state)
    (flawless : ∀ turn ∈ ((Pass.reconcile s ns name).start c).turns answer state,
      turn.exchange.faultFree = true) :
    ∃ asked again, (passAt answer s ns name state c).2.2 = asked ++ [.patchStatus ns name status] ∧
      (∀ request ∈ asked, ¬ request.IsStatus) ∧
      storage? (passAt answer s ns name state c).2.1 ⟨ns, name⟩ = some again ∧
      StatusWritten after status again := by
  obtain ⟨owned', _⟩ := declared_of_statusWritten change (grounded.listed owned) owned
  obtain ⟨rest, later, eq, run, later_eq, others, course⟩ := course_of_pass server
    (Calls.turns_of_run answer _ state) (Pass.ends_run answer (Pass.reconcile s ns name) c state)
    stored owned' flawless
  obtain ⟨front, reply, middle, turns, rfl, unasked, writing, writing_eq, storages⟩ :=
    rewritten_of_grounded server run later_eq owned change staying others grounded course
  rw [statusRequest_of_placed (change.placed owned placed)] at eq others writing_eq
  obtain ⟨again, there, change', _⟩ := change_of_status server writing writing_eq
    (others _ (by simp)) ((storages _).trans stored)
  have requests := Calls.requests_of_run answer ((Pass.reconcile s ns name).start c) state
  rw [eq] at requests
  exact ⟨.readStorage ns name :: front.map Exchange.request, again, requests.symm.trans (by simp),
    not_status_before unasked, there, change'⟩

/-- A pass without faults that writes a status is followed by one that writes the same status again,
at whatever time, and the resource stays as it is. -/
theorem status_settles {s : Settings δ} {ns name : Json} {state : σ} {first second : Context}
    (server : Responsive answer storage? set?) (stored : storage? state ⟨ns, name⟩ = some resource)
    (owned : StorageShaped resource) (wf : resource.wellFormed = true)
    (placed : Placed ns name resource)
    (flawless : ∀ turn ∈ ((Pass.reconcile s ns name).start first).turns answer state,
      turn.exchange.faultFree = true)
    (flawless' : ∀ turn ∈ ((Pass.reconcile s ns name).start second).turns answer
      (passAt answer s ns name state first).2.1, turn.exchange.faultFree = true)
    (writes : ∃ request ∈ (passAt answer s ns name state first).2.2, request.IsStatus) :
    let reached := (passAt answer s ns name state first).2.1
    let next := passAt answer s ns name reached second
    ∃ status asked asked',
      (passAt answer s ns name state first).2.2 = asked ++ [.patchStatus ns name status] ∧
      next.2.2 = asked' ++ [.patchStatus ns name status] ∧
      (∀ request ∈ asked ++ asked', ¬ request.IsStatus) ∧
      ∃ after again value, storage? reached ⟨ns, name⟩ = some after ∧
        after.get? "status" = some value ∧ value.merge status = value ∧
        storage? next.2.1 ⟨ns, name⟩ = some again ∧ again.get? "status" = some value := by
  intro reached next
  obtain ⟨status, asked, after, written, unasked, there, change, staying, grounded⟩ :=
    grounded_of_pass server stored owned placed flawless writes
  obtain ⟨asked', again, rewritten, unasked', there', change'⟩ :=
    rewritten_of_pass server there owned placed change staying grounded flawless'
  have settles := grounded.merge_again owned wf ((resource.get? "status").getD .null)
  refine ⟨status, asked, asked', written, rewritten, List.forall_mem_append.mpr ⟨unasked, unasked'⟩,
    after, again, _, there, change.status, settles, there', ?_⟩
  rw [change'.status, change.status, Option.getD_some, settles]

end

open Redaction.TokenFirst in
theorem status_settles_drifted :
    let s : Settings Nat := ⟨8080, 30, 4, 1, 60, 2, 5, 300, ""⟩
    let id : Identity := ⟨"swift", "storage"⟩
    let resource : Json := .obj
      [("metadata", .obj [("namespace", "swift"), ("name", "storage"), ("generation", .int 3)]),
       ("status", .obj [("conditions", .arr [.obj [("type", "Paused")], .obj [("type", "Ready"),
         ("status", "False"), ("lastTransitionTime", "2023-05-01T00:00:00+00:00")]])])]
    let live : Json := .obj
      [("metadata", .obj [("resourceVersion", "1")]), ("spec", .obj [("replicas", .int 9)])]
    let store : Store := ⟨[(id, resource)], [(id, live)], 1⟩
    let first : Context := ⟨0, {}, .off, [], []⟩
    let second : Context := ⟨86400000000, {}, .off, [], []⟩
    let reached := (passAt Store.answer s "swift" "storage" store first).2.1
    let next := passAt Store.answer s "swift" "storage" reached second
    ∃ status asked asked',
      (passAt Store.answer s "swift" "storage" store first).2.2 =
        asked ++ [.patchStatus "swift" "storage" status] ∧
      next.2.2 = asked' ++ [.patchStatus "swift" "storage" status] ∧
      (∀ request ∈ asked ++ asked', ¬ request.IsStatus) ∧
      ∃ after again value, reached.storage? id = some after ∧
        after.get? "status" = some value ∧ value.merge status = value ∧
        next.2.1.storage? id = some again ∧ again.get? "status" = some value := by
  intro s id resource live store first second
  have owned : StorageShaped resource := by
    refine ⟨⟨_, rfl⟩, ?_⟩
    intro status h
    cases h
    refine Or.inr ⟨_, rfl, ?_⟩
    intro conditions h
    cases h
    refine Or.inr ⟨_, rfl, ?_⟩
    simp [Entries]
  have stored : store.storage? id = some resource := rfl
  have wf : resource.wellFormed = true := rfl
  have placed : Placed "swift" "storage" resource := ⟨rfl, rfl⟩
  have flawless : ∀ turn ∈ ((Pass.reconcile s "swift" "storage").start first).turns Store.answer
      store, turn.exchange.faultFree = true := by
    decide +kernel
  have flawless' : ∀ turn ∈ ((Pass.reconcile s "swift" "storage").start second).turns Store.answer
      (passAt Store.answer s "swift" "storage" store first).2.1,
      turn.exchange.faultFree = true := by
    decide +kernel
  have writes : ∃ request ∈ (passAt Store.answer s "swift" "storage" store first).2.2,
      request.IsStatus := by
    decide +kernel
  exact status_settles Store.responsive stored owned wf placed flawless flawless' writes

end StorageController
