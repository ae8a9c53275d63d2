import StorageController.Cluster.Rehearsal
import StorageController.Proofs.Cluster.Referring
import StorageController.Proofs.Pass.Statuses

namespace StorageController

open Json

section Accounts

variable {δ σ : Type} {answer : Request → σ → Reply × σ} {set? : σ → Identity → Option Json}
  {s last : σ} {t : Topology} {turns : List (Turn σ)} {tr : List Exchange}

/-- The number of ready replicas of a StatefulSet, if there is one; what stands for nothing counts as
none. -/
def readyAt (live : Option Json) : Json :=
  ((live.bind (·.path? ["status", "readyReplicas"])).getD .null).orElse (.int 0)

/-- A cluster whose StatefulSets are those of its replies: what is read is stored, a write that
succeeds is answered with what is stored then, and nothing else changes a StatefulSet. -/
structure Accounting (answer : Request → σ → Reply × σ) (set? : σ → Identity → Option Json) :
    Prop where
  read : ∀ ns name s live, (answer (.readSet ns name) s).1 = .ok live →
    set? s ⟨ns, name⟩ = some live
  written : ∀ request s id object, request.written? = some id →
    (answer request s).1 = .ok object → set? (answer request s).2 id = some object
  unwritten : ∀ request s id, request.written? = none →
    set? (answer request s).2 id = set? s id
  refused : ∀ request s id fault, (answer request s).1 = .error fault →
    set? (answer request s).2 id = set? s id

theorem readyAt_of_readyCount {live : Option Json} {counted : Json}
    (h : Pass.readyCount (live.getD .null) = .ok counted) : counted = readyAt live := by
  obtain ⟨status, looked, h⟩ := ok_of_bind h
  rw [Pass.lookupOr_orElse looked] at h
  rw [Pass.lookupOr_orElse h, readyAt]
  cases live with
  | none => rfl
  | some live =>
    rw [Option.bind_some, Option.getD_some, Pass.path?_pair]
    cases live.get? "status" <;> rfl

/-- A write as it is accounted for: on success the outcome shows what is stored, on failure nothing
was stored. -/
theorem Accounting.write (server : Accounting answer set?) {request : Request} {id : Identity}
    {reply : Reply} {done : Json → Applied} {attempt : Option (Json × Json)} {applied : Applied}
    (writes : request.written? = some id) (answered : (answer request s).1 = reply)
    (live : ∀ object, (done object).live? = some object)
    (outcome : Applied.ofWrite done attempt reply = .ok applied) :
    applied.live? = set? (answer request s).2 id ∨
      applied.live? = attempt.map (·.2) ∧ set? (answer request s).2 id = set? s id := by
  cases reply with
  | ok object =>
    cases outcome
    rw [live, server.written request s id object writes answered]
    exact Or.inl rfl
  | error fault =>
    refine Or.inr ⟨?_, server.refused request s id fault answered⟩
    cases fault with
    | _ => cases outcome <;> rfl

def Unread (t : Topology) (tr : List Exchange) : Prop :=
  ∃ fault, ⟨.readSet t.ns t.name, .error fault⟩ ∈ tr

/-- What an outcome shows is stored when applying ends, unless nothing could be read. -/
theorem Application.live_stored {owner : Json} {applied : Applied} {rest : List Exchange}
    (way : Application t owner tr (.ok applied)) (server : Accounting answer set?)
    (run : Turns answer Eq s turns last) (eq : turns.map Turn.exchange = tr ++ rest) :
    ∃ after later, Turns answer Eq after later last ∧ later.map Turn.exchange = rest ∧
      (applied.live? = set? after ⟨t.ns, t.name⟩ ∨ applied.live? = none ∧ Unread t tr) := by
  have kept := fun s => server.unwritten (.readSet t.ns t.name) s ⟨t.ns, t.name⟩ rfl
  generalize outcome : Except.ok applied = result at way
  cases way with
  | @unread fault present =>
    obtain ⟨_, later, rfl, read, rfl, eq, run⟩ := run.uncons eq
    refine ⟨_, later, run, eq, Or.inr ⟨?_, fault, List.mem_cons_self⟩⟩
    rw [Applied.ofFault] at outcome
    split at outcome <;> cases outcome
    rfl
  | unowned owned => cases outcome
  | @creating message reference reply owned =>
    obtain ⟨_, middle, rfl, read, rfl, eq, run⟩ := run.uncons eq
    obtain ⟨_, later, rfl, answered, rfl, eq, run⟩ := run.uncons eq
    refine ⟨_, later, run, eq, ?_⟩
    rcases server.write rfl answered (fun _ => rfl) outcome.symm with stored | ⟨nothing, _⟩
    · exact Or.inl stored
    · exact Or.inr ⟨nothing, _, List.mem_cons_self⟩
  | @unchanged live same =>
    cases outcome
    obtain ⟨_, later, rfl, read, rfl, eq, run⟩ := run.uncons eq
    refine ⟨_, later, run, eq, Or.inl ?_⟩
    rw [kept, server.read _ _ _ _ read]
    rfl
  | unversioned differ versioned => cases outcome
  | @patching live version fields reply differ versioned =>
    obtain ⟨_, middle, rfl, read, rfl, eq, run⟩ := run.uncons eq
    obtain ⟨_, later, rfl, answered, rfl, eq, run⟩ := run.uncons eq
    refine ⟨_, later, run, eq, Or.inl ?_⟩
    rcases server.write rfl answered (fun _ => rfl) outcome.symm with stored | ⟨before, same⟩
    · exact stored
    · rw [same, before, kept, server.read _ _ _ _ read]
      rfl

theorem Application.unread_outcome {owner : Json} {applied : Applied} {fault : Fault}
    (way : Application t owner tr (.ok applied))
    (mem : ⟨.readSet t.ns t.name, .error fault⟩ ∈ tr)
    (present : ∀ message, fault ≠ .notFound message) :
    applied.live? = none := by
  generalize outcome : Except.ok applied = result at way
  cases way with
  | unread =>
    rw [Applied.ofFault] at outcome
    split at outcome <;> cases outcome
    rfl
  | creating => simp at mem; exact absurd mem (present _)
  | unowned => cases outcome
  | unversioned => cases outcome
  | unchanged => simp at mem
  | patching => simp at mem

/-- What a status says about the replicas that are ready is made from what was applied before. -/
theorem Written.outcome_of_count [Redaction.VisitingOrder] {clock : Clock}
    {resource status value : Json} (written : Written clock resource tr status)
    (counts : status.get? "readyCount" = some value) :
    ∃ t applied, Topology.ofResource resource = .ok t ∧ Application t resource tr (.ok applied) ∧
      value = readyAt applied.live? := by
  cases written with
  | malformed _ _ written =>
    obtain ⟨_, _, rfl⟩ := written
    cases counts
  | reported _ accepted way written =>
    obtain ⟨counted, _, _, count, _, _, rfl⟩ := written
    cases counts
    exact ⟨_, _, accepted, way, readyAt_of_readyCount count⟩

/-- The name and the namespace of a topology are those in the metadata of its resource. -/
theorem Topology.identity_of_ofResource {resource : Json}
    (accepted : Topology.ofResource resource = .ok t)
    (named : (Store.identityOf resource).ns.truthy = true) :
    (⟨t.ns, t.name⟩ : Identity) = Store.identityOf resource := by
  obtain ⟨metadata, hm, hn⟩ := name_of_ofResource accepted
  rw [Store.identityOf, Pass.path?_pair, Pass.path?_pair, hm] at named ⊢
  have name : (Json.obj metadata).get? "name" = some (.str t.name) := hn
  have ns : t.ns = (((Json.obj metadata).get? "namespace").getD .null).orElse "default" :=
    ns_of_ofResource hm accepted
  simp only [Option.bind_some] at named ⊢
  rw [ns, name, Json.orElse, if_pos named, Option.getD_some]

theorem Accounting.status_state (server : Accounting answer set?) {place called status : Json}
    {reply : Reply} (run : Turns answer Eq s turns last)
    (eq : turns.map Turn.exchange = [⟨.patchStatus place called status, reply⟩]) (id : Identity) :
    set? last id = set? s id := by
  obtain ⟨_, rest, rfl, _, rfl, nothing, run⟩ := run.uncons eq
  obtain rfl := List.map_eq_nil_iff.mp nothing
  cases run with
  | done same => exact same ▸ server.unwritten _ _ _ rfl

/-- The count of ready replicas that a pass writes is that of the StatefulSet that is stored when the
pass ends. It is none in place of it after a reading of the StatefulSet that failed. -/
theorem ready_count_stored [Redaction.VisitingOrder] (server : Accounting answer set?)
    (settings : Settings δ) (ns name : Json) (c : Context) (state : σ) :
    let pass := (Pass.reconcile settings ns name).start c
    let tr := (pass.turns answer state).map Turn.exchange
    ∀ place called status reply value, ⟨.patchStatus place called status, reply⟩ ∈ tr →
      status.get? "readyCount" = some value →
      ∃ resource t, tr.head? = some ⟨.readStorage ns name, .ok resource⟩ ∧
        Topology.ofResource resource = .ok t ∧
        (Store.identityOf resource = ⟨ns, name⟩ → ns.truthy = true →
          (⟨t.ns, t.name⟩ : Identity) = ⟨ns, name⟩) ∧
        let stored := set? (pass.run answer state).2.1 ⟨t.ns, t.name⟩
        (value = readyAt stored ∨ value = .int 0 ∧ stored ≠ none ∧ Unread t tr) ∧
        ∀ fault, ⟨.readSet t.ns t.name, .error fault⟩ ∈ tr →
          (∀ message, fault ≠ .notFound message) → value = .int 0 := by
  intro pass tr place called status reply value asked counts
  have run := Calls.turns_of_run answer pass state
  have ends := Pass.ends_run answer (Pass.reconcile settings ns name) c state
  obtain ⟨first, rest, eq, failed, reports⟩ := ends.reported_of_reconcile
  replace eq : tr = _ := eq
  obtain inRest : ⟨.patchStatus place called status, reply⟩ ∈ rest := by simpa [eq] using asked
  cases first with
  | error fault => simp [failed fault rfl] at inRest
  | ok resource =>
    rcases reports resource rfl with silent | ⟨front, written, reply', rfl, made⟩
    · exact absurd ⟨place, called, status, rfl⟩ (silent _ inRest)
    rcases List.mem_append.mp inRest with inside | last
    · exact absurd ⟨place, called, status, rfl⟩ (made.not_status _ inside)
    obtain rfl : status = written := by
      have same := congrArg Exchange.request (List.mem_singleton.mp last)
      cases same
      rfl
    obtain ⟨t, applied, accepted, way, value_eq⟩ := made.outcome_of_count counts
    refine ⟨resource, t, by simp [eq], accepted, ?_, ?_⟩
    · intro own named
      rw [← own]
      exact Topology.identity_of_ofResource accepted (own ▸ named)
    obtain ⟨_, middle, rfl, _, _, eq₁, run₁⟩ := run.uncons eq
    obtain ⟨reached, later, run₂, eq₂, live⟩ := way.live_stored server run₁ eq₁
    have stored := server.status_state run₂ eq₂ ⟨t.ns, t.name⟩
    rw [← stored] at live
    refine ⟨?_, ?_⟩
    · rcases live with same | ⟨nothing, fault, unread⟩
      · exact Or.inl (value_eq.trans (congrArg readyAt same))
      · have zero : value = readyAt none := value_eq.trans (congrArg readyAt nothing)
        cases there : set? (pass.run answer state).2.1 ⟨t.ns, t.name⟩ with
        | none => exact Or.inl zero
        | some live => exact Or.inr ⟨zero, by simp, fault, by simp [eq, unread]⟩
    · intro fault mem present
      have unread : ⟨.readSet t.ns t.name, .error fault⟩ ∈ front := by simpa [eq, statusRequest] using mem
      exact value_eq.trans (congrArg readyAt (way.unread_outcome unread present))

end Accounts

namespace Store

/-- A request is refused without effect, or a StatefulSet that it writes is stored as it is answered. -/
theorem answer_cases (request : Request) (s : Store) :
    (∃ fault, answer request s = (.error fault, s)) ∨
    ∃ object, (answer request s).1 = .ok object ∧
      ∀ id, request.written? = some id → (answer request s).2.set? id = some object := by
  cases request with
  | readStorage ns name | readSet ns name =>
    simp only [answer, read]
    split
    next => exact Or.inr ⟨_, rfl, by rintro _ ⟨⟩⟩
    next => exact Or.inl ⟨_, rfl⟩
  | patchStatus ns name body | annotate ns name body =>
    simp only [answer, patchStorage]
    split
    next => exact Or.inl ⟨_, rfl⟩
    next => exact Or.inr ⟨_, rfl, by rintro _ ⟨⟩⟩
  | createSet ns body =>
    simp only [answer, createSet]
    split
    next => exact Or.inl ⟨_, rfl⟩
    next =>
      refine Or.inr ⟨_, rfl, ?_⟩
      rintro _ ⟨⟩
      rw [set?_putSet, if_pos rfl]
  | patchSet ns name patch =>
    rw [answer, patchSet]
    split
    next => exact Or.inl ⟨_, rfl⟩
    next =>
      split
      next => exact Or.inl ⟨_, rfl⟩
      next =>
        refine Or.inr ⟨_, rfl, ?_⟩
        rintro _ ⟨⟩
        rw [set?_putSet, if_pos rfl]

theorem accounting : Accounting answer set? where
  read ns name s live h := ok_of_readSet h
  written := by
    intro request s id object written h
    rcases answer_cases request s with ⟨_, refused⟩ | ⟨_, answered, stored⟩
    · cases (congrArg Prod.fst refused).symm.trans h
    · cases answered.symm.trans h
      exact stored id written
  unwritten request s id unasked := referring.unasked request s unasked id
  refused := by
    intro request s id fault h
    rcases answer_cases request s with ⟨_, refused⟩ | ⟨_, answered, _⟩
    · rw [refused]
    · cases answered.symm.trans h

end Store

/-- A cluster in memory with failures to come and nobody else. -/
structure Faulty where
  rehearsal : Rehearsal
  undisturbed : rehearsal.pending = []

namespace Faulty

theorem undisturbed_answer (request : Request) {r : Rehearsal} (undisturbed : r.pending = []) :
    (r.answer request).2.pending = [] := by
  rw [Rehearsal.answer, undisturbed]
  simp only [Rehearsal.actsBefore, List.filter_nil, List.flatMap_nil, List.foldl_nil]
  split <;> rfl

def answer (request : Request) (r : Faulty) : Reply × Faulty :=
  ((r.rehearsal.answer request).1,
    ⟨(r.rehearsal.answer request).2, undisturbed_answer request r.undisturbed⟩)

def set? (r : Faulty) (id : Identity) : Option Json :=
  r.rehearsal.store.set? id

theorem answer_cases (request : Request) (r : Faulty) :
    (∃ fault, (answer request r).1 = .error fault ∧
      (answer request r).2.rehearsal.store = r.rehearsal.store) ∨
    (answer request r).1 = (r.rehearsal.store.answer request).1 ∧
      (answer request r).2.rehearsal.store = (r.rehearsal.store.answer request).2 := by
  obtain ⟨⟨store, failures, pending⟩, undisturbed⟩ := r
  obtain rfl : pending = [] := undisturbed
  simp only [answer, Rehearsal.answer, Rehearsal.actsBefore, List.filter_nil, List.flatMap_nil,
    List.foldl_nil]
  split
  next => exact Or.inl ⟨_, rfl, rfl⟩
  next => exact Or.inr ⟨rfl, rfl⟩

/-- Failures that are told beforehand do not disturb the account. -/
theorem accounting : Accounting answer set? where
  read := by
    intro ns name r live h
    rcases answer_cases (.readSet ns name) r with ⟨fault, failed, _⟩ | ⟨served, _⟩
    · cases failed.symm.trans h
    · exact Store.accounting.read ns name _ live (served.symm.trans h)
  written := by
    intro request r id object written h
    rcases answer_cases request r with ⟨fault, failed, _⟩ | ⟨served, stored⟩
    · cases failed.symm.trans h
    · rw [set?, stored]
      exact Store.accounting.written request _ id object written (served.symm.trans h)
  unwritten := by
    intro request r id unasked
    rcases answer_cases request r with ⟨_, _, same⟩ | ⟨_, stored⟩
    · rw [set?, set?, same]
    · rw [set?, set?, stored]
      exact Store.accounting.unwritten request _ id unasked
  refused := by
    intro request r id fault h
    rcases answer_cases request r with ⟨_, _, same⟩ | ⟨served, stored⟩
    · rw [set?, set?, same]
    · rw [set?, set?, stored]
      exact Store.accounting.refused request _ id fault (served.symm.trans h)

end Faulty

namespace Unseen

def settings : Settings Nat :=
  ⟨8080, 30, 4, 1, 60, 2, 5, 300, ""⟩

def metadata : Json :=
  .obj [("namespace", "swift"), ("name", "storage")]

def live : Json :=
  .obj [("metadata", metadata), ("status", .obj [("readyReplicas", .int 3)])]

def store : Store :=
  ⟨[(⟨"swift", "storage"⟩, .obj [("metadata", metadata)])], [(⟨"swift", "storage"⟩, live)], 0⟩

def faulty (failures : List Failure) : Faulty :=
  ⟨⟨store, failures, []⟩, rfl⟩

def unread : Failure :=
  ⟨"get_stateful_set", .transport "boom" .null, none⟩

def pass [Redaction.VisitingOrder] : Calls (Except Fault (Directive Nat) × Context) :=
  (Pass.reconcile settings "swift" "storage").start ⟨0, {}, .off, [], []⟩

end Unseen

open Unseen Redaction.TokenFirst in
/-- Three replicas are ready, and after the StatefulSet was patched the status says so. -/
theorem ready_count_stored_patched :
    ∃ status reply, ⟨.patchStatus "swift" "storage" status, reply⟩ ∈
        (pass.turns Faulty.answer (faulty [])).map Turn.exchange ∧
      status.get? "readyCount" = some (.int 3) ∧
      .int 3 = readyAt ((pass.run Faulty.answer (faulty [])).2.1.set? ⟨"swift", "storage"⟩) := by
  obtain ⟨status, reply, asked, counts⟩ :
      ∃ status reply, ⟨.patchStatus "swift" "storage" status, reply⟩ ∈
        (pass.turns Faulty.answer (faulty [])).map Turn.exchange ∧
      status.get? "readyCount" = some (.int 3) :=
    ⟨_, _, .tail _ (.tail _ (.tail _ (.head _))), rfl⟩
  refine ⟨status, reply, asked, counts, ?_⟩
  obtain ⟨resource, t, first, _, identified, agrees, _⟩ :=
    ready_count_stored Faulty.accounting settings "swift" "storage" ⟨0, {}, .off, [], []⟩ (faulty [])
      "swift" "storage" status reply (.int 3) asked counts
  obtain rfl : resource = .obj [("metadata", metadata)] := by
    cases first
    rfl
  rw [identified rfl rfl] at agrees
  exact agrees.resolve_right (by simp)

open Unseen Redaction.TokenFirst in
/-- Three replicas are ready, and after the StatefulSet could not be read the status says that none
is. -/
theorem ready_count_unseen :
    ∃ status reply, ⟨.patchStatus "swift" "storage" status, reply⟩ ∈
        (pass.turns Faulty.answer (faulty [unread])).map Turn.exchange ∧
      status.get? "readyCount" = some (.int 0) ∧
      readyAt ((pass.run Faulty.answer (faulty [unread])).2.1.set? ⟨"swift", "storage"⟩) = .int 3 :=
  ⟨_, _, .tail _ (.tail _ (.head _)), rfl, rfl⟩

end StorageController
