import StorageController.Proofs.Cluster.Noting
import StorageController.Proofs.Dispatch
import StorageController.Proofs.Pass.Ownership

namespace StorageController

open Json Ownership

variable {δ σ : Type} {answer : Request → σ → Reply × σ}
  {storage? set? : σ → Identity → Option Json} {t : Topology} {s s' : σ}

inductive Task where
  | pass (ns name : Json)
  /-- A change of a StatefulSet in a namespace. -/
  | event (object ns : Json)

namespace Task

def isPass : Task → Bool
  | .pass _ _ => true
  | .event _ _ => false

def most : Task → Nat
  | .pass _ _ => 4
  | .event _ _ => 1

@[simp] theorem isPass_pass (ns name : Json) : (pass ns name).isPass = true := rfl

@[simp] theorem isPass_event (object ns : Json) : (event object ns).isPass = false := rfl

@[simp] theorem most_pass (ns name : Json) : (pass ns name).most = 4 := rfl

@[simp] theorem most_event (object ns : Json) : (event object ns).most = 1 := rfl

end Task

def Dispatcher.handle [Redaction.VisitingOrder] [Duration δ] (d : Dispatcher δ) (retry : Int) :
    Task → Pass (Handled δ)
  | .pass ns name => d.handleStorage ns name retry
  | .event object ns => d.handleSet object ns

/-- A task that was taken up, with the number of its requests so far and what is left of it. -/
structure Job (δ : Type) where
  task : Task
  asked : Nat
  left : Calls (Except Fault (Handled δ) × Context)

/-- The cluster with what waits and what was taken up, and how many passes were begun and
StatefulSets written and notes put on resources so far. -/
structure Loop (σ δ : Type) where
  cluster : σ
  waiting : List Task
  working : List (Job δ)
  passes : Nat
  writes : Nat
  notes : Nat

/-- What a request brings that succeeds. -/
def delivered (set? : σ → Identity → Option Json) (turn : Turn σ) : List Task :=
  match turn.exchange.reply with
  | .error _ => []
  | .ok _ =>
    (turn.exchange.request.noted?.map fun id => Task.pass id.ns id.name).toList ++
    (turn.exchange.request.written?.bind fun id =>
      (set? turn.after id).map (Task.event · id.ns)).toList

theorem delivered_of_aside {turn : Turn σ} (unwritten : turn.exchange.request.written? = none)
    (unnoted : turn.exchange.request.noted? = none) : delivered set? turn = [] := by
  unfold delivered
  split
  · rfl
  · simp [unwritten, unnoted]

theorem delivered_of_write {turn : Turn σ} {id : Identity} {object stored : Json}
    (written : turn.exchange.request.written? = some id)
    (unnoted : turn.exchange.request.noted? = none) (answered : turn.exchange.reply = .ok object)
    (there : set? turn.after id = some stored) : delivered set? turn = [.event stored id.ns] := by
  simp [delivered, answered, written, unnoted, there]

theorem delivered_of_note {turn : Turn σ} {id : Identity} {object : Json}
    (unwritten : turn.exchange.request.written? = none)
    (noted : turn.exchange.request.noted? = some id) (answered : turn.exchange.reply = .ok object) :
    delivered set? turn = [.pass id.ns id.name] := by
  simp [delivered, answered, unwritten, noted]

theorem unwritten_of_noted {request : Request} {id : Identity} (h : request.noted? = some id) :
    request.written? = none := by
  cases request <;> simp_all [Request.noted?, Request.written?]

theorem Writes.unnoted {request : Request} (h : Writes t request) : request.noted? = none := by
  cases h <;> rfl

namespace Loop

def start (cluster : σ) (ns name : Json) : Loop σ δ :=
  ⟨cluster, [.pass ns name], [], 0, 0, 0⟩

def answered (w : Loop σ δ) (set? : σ → Identity → Option Json) (front back : List (Job δ))
    (job : Job δ) (turn : Turn σ) (left : Calls (Except Fault (Handled δ) × Context)) : Loop σ δ where
  cluster := turn.after
  waiting := w.waiting ++ delivered set? turn
  working := front ++ ⟨job.task, job.asked + 1, left⟩ :: back
  passes := w.passes
  writes := w.writes + (if turn.exchange.request.written?.isSome then 1 else 0)
  notes := w.notes + (if turn.exchange.request.noted?.isSome then 1 else 0)

/-- A task that did not finish waits again. -/
def redelivered (task : Task) : Except Fault (Handled δ) → List Task
  | .ok .finished => []
  | _ => [task]

/-- One step: a task is taken up, a request is answered, or a task has come to its end. -/
inductive Step [Redaction.VisitingOrder] [Duration δ] (answer : Request → σ → Reply × σ)
    (set? : σ → Identity → Option Json) (d : Dispatcher δ) : Loop σ δ → Loop σ δ → Prop
  | begin {w : Loop σ δ} {front back : List Task} {task : Task} (c : Context) (retry : Int)
      (waits : w.waiting = front ++ task :: back) :
      Step answer set? d w
        { w with
          waiting := front ++ back
          working := ⟨task, 0, (d.handle retry task).start c⟩ :: w.working
          passes := w.passes + (if task.isPass then 1 else 0) }
  | request {w : Loop σ δ} {front back : List (Job δ)} {job : Job δ} {request : Request}
      {next : Reply → Calls (Except Fault (Handled δ) × Context)}
      (works : w.working = front ++ job :: back) (asks : job.left = .call request next) :
      Step answer set? d w (w.answered set? front back job (Turn.of answer request w.cluster)
        (next (answer request w.cluster).1))
  | finish {w : Loop σ δ} {front back : List (Job δ)} {job : Job δ}
      {outcome : Except Fault (Handled δ)} {after : Context}
      (works : w.working = front ++ job :: back) (ends : job.left = .ret (outcome, after)) :
      Step answer set? d w
        { w with waiting := w.waiting ++ redelivered job.task outcome, working := front ++ back }

inductive Runs [Redaction.VisitingOrder] [Duration δ] (answer : Request → σ → Reply × σ)
    (set? : σ → Identity → Option Json) (d : Dispatcher δ) : Nat → Loop σ δ → Loop σ δ → Prop
  | none (w : Loop σ δ) : Runs answer set? d 0 w w
  | step {n : Nat} {w w' w'' : Loop σ δ} (run : Runs answer set? d n w w')
      (last : Step answer set? d w' w'') : Runs answer set? d (n + 1) w w''

theorem idle_of_stuck [Redaction.VisitingOrder] [Duration δ] {d : Dispatcher δ} {w : Loop σ δ}
    (stuck : ∀ w', ¬ Step answer set? d w w') : w.waiting = [] ∧ w.working = [] := by
  constructor
  · cases waits : w.waiting with
    | nil => rfl
    | cons task rest =>
      have first : w.waiting = [] ++ task :: rest := waits
      exact absurd (.begin ⟨0, {}, .off, [], []⟩ 0 first) (stuck _)
  · cases works : w.working with
    | nil => rfl
    | cons job rest =>
      have first : w.working = [] ++ job :: rest := works
      cases left : job.left with
      | ret result => exact absurd (.finish first left) (stuck _)
      | call request next => exact absurd (.request first left) (stuck _)

end Loop

/-- A StatefulSet whose changes ask for a pass of the resource of the topology, or for none. -/
structure Heeded (t : Topology) (object : Json) : Prop where
  metadata : HasMetadata object
  controller : controllerOf object = .ok none ∨ ∃ reference,
    controllerOf object = .ok (some reference) ∧ reference.get? "name" = some (.str t.name)

theorem heeded_of_body {resource reference stored : Json}
    (accepted : Topology.ofResource resource = .ok t)
    (referred : ownerReference resource = .ok reference)
    (keeps : KeepsReferences (t.body reference) stored) : Heeded t stored := by
  refine ⟨keeps.metadata, ?_⟩
  obtain ⟨_, readable⟩ := keeps.metadata.metadataIn
  obtain ⟨metadata, hm, named⟩ := Topology.name_of_ofResource accepted
  obtain ⟨fields, rfl, mem⟩ := eq_obj_of_get? hm
  have named : reference.get? "name" = some (.str t.name) := by
    rw [ownerReference_eq referred, path?_metadata "name" mem, named]
    rfl
  obtain ⟨controls, decided⟩ : ∃ controls, isController reference = .ok controls := by
    rw [ownerReference_eq referred, isController_obj]
    exact ⟨_, rfl⟩
  have alone : controllerOf stored = .ok (if controls then some reference else none) := by
    rw [controllerOf_eq readable, keeps.same]
    exact findController_singleton decided
  cases controls with
  | true => exact Or.inr ⟨reference, alone, named⟩
  | false => exact Or.inl alone

/-- What a pass writes is heeded if what it found was. -/
theorem heeded_of_writes {request : Request} {object : Json} (server : Referring answer set?)
    (writes : Writes t request) (answered : (answer request s).1 = .ok object)
    (found : ∀ live, set? s ⟨t.ns, t.name⟩ = some live → Heeded t live) :
    request.written? = some ⟨t.ns, t.name⟩ ∧
      ∃ stored, set? (answer request s).2 ⟨t.ns, t.name⟩ = some stored ∧ Heeded t stored := by
  cases writes with
  | @create resource reference accepted referred =>
    obtain ⟨stored, there, keeps⟩ := server.create t.ns (t.body reference) _ s object rfl answered
    exact ⟨rfl, stored, there, heeded_of_body accepted referred keeps⟩
  | patch live version =>
    obtain ⟨present, stored, before, there, keeps⟩ := server.patch _ _ _ s object answered
    have heeded := found present before
    obtain ⟨_, readable⟩ := heeded.metadata.metadataIn
    refine ⟨rfl, stored, there, keeps.metadata, ?_⟩
    rw [keeps.controllerOf_merge (modest_guarded t live version) readable]
    exact heeded.controller

/-- The turn of a task. A pass goes on orderly; an event puts a note on the resource, which succeeds. -/
def Proper (storage? set? : σ → Identity → Option Json) (t : Topology) (turn : Turn σ) :
    Task → Prop
  | .pass _ _ => Orderly storage? set? t.ns (.str t.name) t turn
  | .event _ _ => turn.exchange.request.noted? = some ⟨t.ns, .str t.name⟩ ∧
      (∃ object, turn.exchange.reply = .ok object) ∧
      Beside storage? set? t.ns (.str t.name) t turn.before turn.after

/-- However a job goes on in a state, beside others that write no StatefulSet: its turns are proper and
few, it finishes, and after a pass the StatefulSet is in sync. -/
def Promising (answer : Request → σ → Reply × σ) (storage? set? : σ → Identity → Option Json)
    (t : Topology) (job : Job δ) (s : σ) : Prop :=
  ∀ turns last outcome after,
    Turns answer (Beside storage? set? t.ns (.str t.name) t) s turns last →
    job.left.Ends (turns.map Turn.exchange) (outcome, after) →
    (∀ turn ∈ turns, Proper storage? set? t turn job.task) ∧
      job.asked + turns.length ≤ job.task.most ∧ outcome = .ok .finished ∧
      (job.task.isPass = true → Synced set? t last)

namespace Promising

variable {job : Job δ}

theorem beside (h : Promising answer storage? set? t job s)
    (meanwhile : Beside storage? set? t.ns (.str t.name) t s s') :
    Promising answer storage? set? t job s' := by
  intro turns last outcome after run ends
  refine h turns last outcome after ?_ ends
  cases run with
  | done act => exact .done (meanwhile.trans act)
  | turn act further => exact .turn (meanwhile.trans act) further

theorem finished (h : Promising answer storage? set? t job s) {outcome : Except Fault (Handled δ)}
    {after : Context} (ends : job.left = .ret (outcome, after)) :
    job.asked ≤ job.task.most ∧ outcome = .ok .finished ∧
      (job.task.isPass = true → Synced set? t s) := by
  obtain ⟨_, few, rest⟩ := h [] s outcome after (.done (.refl s)) (by rw [ends]; exact .ret _)
  exact ⟨few, rest⟩

/-- An answered request was a proper one, and what is left keeps the promise. -/
theorem answered (h : Promising answer storage? set? t job s) {request : Request}
    {next : Reply → Calls (Except Fault (Handled δ) × Context)}
    (asks : job.left = .call request next) :
    Proper storage? set? t (Turn.of answer request s) job.task ∧ job.asked + 1 ≤ job.task.most ∧
      Promising answer storage? set? t ⟨job.task, job.asked + 1, next (answer request s).1⟩
        (answer request s).2 := by
  have later : ∀ turns last outcome after,
      Turns answer (Beside storage? set? t.ns (.str t.name) t) (answer request s).2 turns last →
      (next (answer request s).1).Ends (turns.map Turn.exchange) (outcome, after) →
      (∀ turn ∈ Turn.of answer request s :: turns, Proper storage? set? t turn job.task) ∧
        job.asked + (turns.length + 1) ≤ job.task.most ∧ outcome = .ok .finished ∧
        (job.task.isPass = true → Synced set? t last) := by
    intro turns last outcome after run ends
    refine h _ last outcome after (.turn (.refl s) run) ?_
    rw [asks]
    exact .call ends
  -- What is left comes to some end, if only because nobody else uses the cluster any more.
  let rest := next (answer request s).1
  have alone := Calls.turns_of_run answer rest (answer request s).2
  obtain ⟨proper, few, _⟩ := later _ _ _ _ (alone.mono fun _ _ same => same ▸ .refl _)
    (Calls.ends_turns answer rest (answer request s).2)
  refine ⟨proper _ List.mem_cons_self, by omega, ?_⟩
  intro turns last outcome after run ends
  obtain ⟨proper, few, finished⟩ := later turns last outcome after run ends
  exact ⟨(List.forall_mem_cons.mp proper).2, by simp only; omega, finished⟩

theorem of_pass [Redaction.VisitingOrder] [Duration δ] {d : Dispatcher δ} {settings : Settings δ}
    (server : Settling answer storage? set?) (bound : d.reconciler = some settings)
    (ready : Ready storage? set? t.ns (.str t.name) t s) (c : Context) (retry : Int) :
    Promising answer storage? set? t
      ⟨.pass t.ns (.str t.name), 0, (d.handleStorage t.ns (.str t.name) retry).start c⟩ s := by
  intro turns last outcome after run ends
  obtain ⟨inner, c₁, passed, finished⟩ := Pass.Ends.of_handleStorage bound ends
  obtain ⟨done, _, synced, orderly, few, _⟩ :=
    orderly_of_reconcile server run (fun _ _ h => h) passed ready
  exact ⟨orderly, by simpa using few, finished done, fun _ => synced⟩

theorem of_event [Redaction.VisitingOrder] {d : Dispatcher δ} {object : Json}
    (server : Noting answer storage? set?) (bound : d.isBound = true)
    (declared : Declared storage? t.ns (.str t.name) t s)
    (synced : Synced set? t s) (heeded : Heeded t object) (c : Context) :
    Promising answer storage? set? t
      ⟨.event object t.ns, 0, (d.handleSet object t.ns).start c⟩ s := by
  intro turns last outcome after run ends
  rcases heeded.controller with none | ⟨reference, controlled, named⟩
  · obtain ⟨nothing, finished⟩ := Pass.Ends.of_handleSet_none none ends
    obtain rfl := List.map_eq_nil_iff.mp nothing
    exact ⟨by simp, by simp, finished, by simp⟩
  · obtain ⟨metadata, readable⟩ := heeded.metadata.metadataIn
    obtain ⟨reply, eq, finished⟩ := Pass.Ends.of_handleSet_some bound controlled readable named ends
    obtain ⟨b, rest, act, rfl, rfl, nothing, _⟩ := run.uncons eq
    obtain rfl := List.map_eq_nil_iff.mp nothing
    have place : triggerRequest t.ns metadata (.str t.name) =
        .annotate t.ns (.str t.name) (.obj [(Cluster.triggerKey, triggerOf metadata)]) := by
      obtain ⟨_, _, _, _, accepted⟩ := declared
      rw [triggerRequest, eventNs, if_pos (Topology.truthy_ns accepted)]
    rw [place] at finished ⊢
    obtain ⟨object, s', noted, meanwhile⟩ := server.beside (act.synced_iff.mpr synced)
      (act.ready (declared.ready synced)).declared (.obj [(Cluster.triggerKey, triggerOf metadata)])
    rw [Turn.of_eq noted]
    refine ⟨List.forall_mem_singleton.mpr ⟨rfl, ⟨object, rfl⟩, meanwhile⟩, by simp, ?_,
      by simp⟩
    rw [noted] at finished
    rcases finished with finished | ⟨fault, _, refused, _⟩
    · exact finished
    · cases refused

end Promising

end StorageController
