import Mathlib.Algebra.GroupWithZero.Nat
import StorageController.Proofs.Cluster.Loop

namespace StorageController

open Json Ownership

variable {δ σ : Type} {answer : Request → σ → Reply × σ}
  {storage? set? : σ → Identity → Option Json} {t : Topology}

/-- A task that waits while the resource of a topology is handled. -/
inductive Expected (t : Topology) : Task → Prop
  | pass : Expected t (.pass t.ns (.str t.name))
  | event {object : Json} (heeded : Heeded t object) : Expected t (.event object t.ns)

/-- The number of steps that a task can still bring about; an event may bring one more pass. -/
def Task.weight (task : Task) : Nat :=
  task.most + 2 + (if task.isPass then 0 else 6)

namespace Job

/-- An event that was taken up and did not ask for a pass yet. -/
def fresh (job : Job δ) : Bool :=
  !job.task.isPass && job.asked == 0

def weight (job : Job δ) : Nat :=
  job.task.most + 1 - job.asked + (if job.fresh then 6 else 0)

theorem fresh_begun (task : Task) (left : Calls (Except Fault (Handled δ) × Context)) :
    fresh ⟨task, 0, left⟩ = !task.isPass :=
  Bool.and_true _

theorem weight_begun (task : Task) (left : Calls (Except Fault (Handled δ) × Context)) :
    weight ⟨task, 0, left⟩ + 1 = task.weight := by
  rw [weight, fresh_begun, Task.weight]
  cases task.isPass <;> simp only [Bool.not_true, Bool.not_false, Bool.false_eq_true, if_true,
    if_false] <;> omega

@[simp] theorem fresh_answered (task : Task) (asked : Nat)
    (left : Calls (Except Fault (Handled δ) × Context)) :
    fresh ⟨task, asked + 1, left⟩ = false := by
  simp [fresh]

@[simp] theorem weight_answered (task : Task) (asked : Nat)
    (left : Calls (Except Fault (Handled δ) × Context)) :
    weight ⟨task, asked + 1, left⟩ = task.most - asked := by
  simp [weight]

theorem fresh_of_pass {job : Job δ} (pass : job.task.isPass = true) : job.fresh = false := by
  simp [fresh, pass]

end Job

namespace Loop

variable {w w' : Loop σ δ}

def events (w : Loop σ δ) : Nat :=
  w.waiting.countP (!·.isPass) + w.working.countP Job.fresh

/-- The number of steps that a state can still bring about; a write would bring an event. -/
def weight (w : Loop σ δ) : Nat :=
  (w.waiting.map Task.weight).sum + (w.working.map Job.weight).sum + 9 * (1 - w.writes)

section

variable {front back : List (Job δ)} {job : Job δ} (set? : σ → Identity → Option Json)
  (turn : Turn σ) (left : Calls (Except Fault (Handled δ) × Context))

theorem events_answered (works : w.working = front ++ job :: back) :
    (w.answered set? front back job turn left).events + (if job.fresh then 1 else 0) =
      w.events + (delivered set? turn).countP (!·.isPass) := by
  simp only [events, answered, works, List.countP_append, List.countP_cons, Job.fresh_answered]
  simp only [Bool.false_eq_true, if_false]
  omega

/-- An answered request takes one step off the weight, and what it brings and whether it writes make
up for the rest. -/
theorem weight_answered (works : w.working = front ++ job :: back)
    (few : job.asked + 1 ≤ job.task.most) :
    (w.answered set? front back job turn left).weight + 1 + (if job.fresh then 6 else 0) +
        9 * (1 - w.writes) =
      w.weight + ((delivered set? turn).map Task.weight).sum +
        9 * (1 - (w.answered set? front back job turn left).writes) := by
  simp only [weight, answered, works, List.map_append, List.map_cons, List.sum_append,
    List.sum_cons, Job.weight_answered]
  have whole : job.weight = job.task.most - job.asked + 1 + (if job.fresh then 6 else 0) := by
    rw [Job.weight]
    omega
  omega

end

/-- What holds between any two steps. Until the StatefulSet is in sync there is one pass and nothing
else. -/
structure Sound (answer : Request → σ → Reply × σ) (storage? set? : σ → Identity → Option Json)
    (t : Topology) (w : Loop σ δ) : Prop where
  ready : Ready storage? set? t.ns (.str t.name) t w.cluster
  heeded : ∀ live, set? w.cluster ⟨t.ns, t.name⟩ = some live → Heeded t live
  tasks : ∀ task ∈ w.waiting, Expected t task
  jobs : ∀ job ∈ w.working, Promising answer storage? set? t job w.cluster
  synced : Synced set? t w.cluster ∨
    w.writes = 0 ∧ w.waiting ++ w.working.map Job.task = [.pass t.ns (.str t.name)]
  writes : w.writes ≤ 1
  notes : w.notes + w.events ≤ w.writes
  passes : w.passes + w.waiting.countP Task.isPass ≤ 1 + w.notes

namespace Sound

/-- There are events only where the StatefulSet is in sync. -/
theorem synced_of_event {object ns : Json} (sound : Sound answer storage? set? t w)
    (there : Task.event object ns ∈ w.waiting ++ w.working.map Job.task) :
    Synced set? t w.cluster := by
  rcases sound.synced with synced | ⟨_, alone⟩
  · exact synced
  · rw [alone] at there
    simp at there

theorem jobs_of_works {front back : List (Job δ)} {job : Job δ}
    (sound : Sound answer storage? set? t w) (works : w.working = front ++ job :: back) :
    Promising answer storage? set? t job w.cluster ∧
      ∀ other ∈ front ++ back, Promising answer storage? set? t other w.cluster := by
  have jobs := sound.jobs
  rw [works] at jobs
  simpa [List.forall_mem_append, or_imp, forall_and, and_left_comm] using jobs

theorem begin [Redaction.VisitingOrder] [Duration δ] {d : Dispatcher δ} {settings : Settings δ}
    {front back : List Task} {task : Task} (sound : Sound answer storage? set? t w)
    (settling : Settling answer storage? set?)
    (noting : Noting answer storage? set?) (bound : d.reconciler = some settings) (c : Context)
    (retry : Int) (waits : w.waiting = front ++ task :: back) :
    let next : Loop σ δ :=
      { w with
        waiting := front ++ back
        working := ⟨task, 0, (d.handle retry task).start c⟩ :: w.working
        passes := w.passes + (if task.isPass then 1 else 0) }
    Sound answer storage? set? t next ∧ next.weight < w.weight := by
  have tasks : Expected t task ∧ ∀ other ∈ front ++ back, Expected t other := by
    have tasks := sound.tasks
    rw [waits] at tasks
    simpa [List.forall_mem_append, or_imp, forall_and, and_left_comm] using tasks
  have promising : Promising answer storage? set? t
      ⟨task, 0, (d.handle retry task).start c⟩ w.cluster := by
    cases tasks.1 with
    | pass => exact .of_pass settling bound sound.ready c retry
    | @event object heeded =>
      have there : Task.event object t.ns ∈ w.waiting ++ w.working.map Job.task := by simp [waits]
      have synced := sound.synced_of_event there
      have isBound : d.isBound = true := by rw [Dispatcher.isBound, bound]; rfl
      exact .of_event noting isBound sound.ready.declared synced heeded c
  refine ⟨⟨sound.ready, sound.heeded, tasks.2, List.forall_mem_cons.mpr ⟨promising, sound.jobs⟩,
    ?_, sound.writes, ?_, ?_⟩, ?_⟩
  · refine sound.synced.imp_right fun ⟨unwritten, alone⟩ => ⟨unwritten, ?_⟩
    obtain ⟨rfl, rfl, rfl, idle⟩ : front = [] ∧ task = .pass t.ns (.str t.name) ∧ back = [] ∧
        w.working = [] := by
      simpa [waits, List.append_eq_singleton_iff] using alone
    simp [idle]
  · have notes := sound.notes
    simp only [events, waits, List.countP_append, List.countP_cons, Job.fresh_begun] at notes ⊢
    omega
  · have passes := sound.passes
    simp only [waits, List.countP_append, List.countP_cons] at passes ⊢
    omega
  · have begun := Job.weight_begun task ((d.handle retry task).start c)
    simp only [weight, waits, List.map_append, List.map_cons, List.sum_append, List.sum_cons]
    omega

theorem finish {front back : List (Job δ)} {job : Job δ} {outcome : Except Fault (Handled δ)}
    {after : Context} (sound : Sound answer storage? set? t w)
    (works : w.working = front ++ job :: back) (ends : job.left = .ret (outcome, after)) :
    let next : Loop σ δ :=
      { w with waiting := w.waiting ++ redelivered job.task outcome, working := front ++ back }
    Sound answer storage? set? t next ∧ next.weight < w.weight := by
  obtain ⟨promising, others⟩ := sound.jobs_of_works works
  obtain ⟨few, rfl, settled⟩ := promising.finished ends
  have synced : Synced set? t w.cluster := by
    cases task : job.task with
    | pass ns name => exact settled (by rw [task]; rfl)
    | event object ns =>
      have there : Task.event object ns ∈ w.waiting ++ w.working.map Job.task := by
        simp [works, task]
      exact sound.synced_of_event there
  have nothing : w.waiting ++ redelivered job.task (.ok (.finished : Handled δ)) = w.waiting :=
    List.append_nil _
  refine ⟨⟨sound.ready, sound.heeded, ?_, others, Or.inl synced, sound.writes, ?_, ?_⟩, ?_⟩
  · rw [nothing]
    exact sound.tasks
  · have notes := sound.notes
    simp only [events, works, nothing, List.countP_append, List.countP_cons] at notes ⊢
    omega
  · simp only [nothing]
    exact sound.passes
  · have left : 0 < job.weight := by
      rw [Job.weight]
      omega
    simp only [weight, nothing, works, List.map_append, List.map_cons, List.sum_append,
      List.sum_cons]
    omega

section

variable {front back : List (Job δ)} {job : Job δ} {turn : Turn σ}
  {left : Calls (Except Fault (Handled δ) × Context)}

theorem promised {other : Job δ}
    (beside : Beside storage? set? t.ns (.str t.name) t w.cluster turn.after)
    (others : ∀ job ∈ front ++ back, Promising answer storage? set? t job w.cluster)
    (promising : Promising answer storage? set? t other turn.after) :
    ∀ job ∈ front ++ other :: back, Promising answer storage? set? t job turn.after := by
  obtain ⟨before, after⟩ := List.forall_mem_append.mp others
  refine List.forall_mem_append.mpr ⟨?_, List.forall_mem_cons.mpr ⟨promising, ?_⟩⟩
  · exact fun job hj => (before job hj).beside beside
  · exact fun job hj => (after job hj).beside beside

theorem aside (sound : Sound answer storage? set? t w) (works : w.working = front ++ job :: back)
    (few : job.asked + 1 ≤ job.task.most)
    (promising : Promising answer storage? set? t ⟨job.task, job.asked + 1, left⟩ turn.after)
    (pass : job.task.isPass = true) (unwritten : turn.exchange.request.written? = none)
    (unnoted : turn.exchange.request.noted? = none)
    (beside : Beside storage? set? t.ns (.str t.name) t w.cluster turn.after) :
    Sound answer storage? set? t (w.answered set? front back job turn left) ∧
      (w.answered set? front back job turn left).weight < w.weight := by
  obtain ⟨_, others⟩ := sound.jobs_of_works works
  have brought : delivered set? turn = [] := delivered_of_aside unwritten unnoted
  have idle : job.fresh = false := Job.fresh_of_pass pass
  have writes : (w.answered set? front back job turn left).writes = w.writes := by
    simp [answered, unwritten]
  have notes : (w.answered set? front back job turn left).notes = w.notes := by
    simp [answered, unnoted]
  have events : (w.answered set? front back job turn left).events = w.events := by
    simpa [brought, idle] using events_answered set? turn left works
  refine ⟨⟨beside.ready sound.ready, ?_, ?_, ?_, ?_, ?_, ?_, ?_⟩, ?_⟩
  · intro live there
    exact sound.heeded live ((beside.sets _).symm.trans there)
  · simpa [answered, brought] using sound.tasks
  · exact promised beside others promising
  · rw [writes]
    refine sound.synced.imp beside.synced_iff.mpr fun ⟨untouched, alone⟩ => ⟨untouched, ?_⟩
    simpa [answered, brought, works] using alone
  · rw [writes]
    exact sound.writes
  · rw [notes, events, writes]
    exact sound.notes
  · rw [notes]
    simpa [answered, brought] using sound.passes
  · have weight := weight_answered set? turn left works few
    simp only [brought, idle, writes, List.map_nil, List.sum_nil] at weight
    omega

theorem note (sound : Sound answer storage? set? t w) (works : w.working = front ++ job :: back)
    (few : job.asked + 1 ≤ job.task.most)
    (promising : Promising answer storage? set? t ⟨job.task, job.asked + 1, left⟩ turn.after)
    {object ns reply : Json} (event : job.task = .event object ns)
    (noted : turn.exchange.request.noted? = some ⟨t.ns, .str t.name⟩)
    (replied : turn.exchange.reply = .ok reply)
    (beside : Beside storage? set? t.ns (.str t.name) t w.cluster turn.after) :
    Sound answer storage? set? t (w.answered set? front back job turn left) ∧
      (w.answered set? front back job turn left).weight < w.weight := by
  obtain ⟨_, others⟩ := sound.jobs_of_works works
  have unwritten := unwritten_of_noted noted
  have brought : delivered set? turn = [.pass t.ns (.str t.name)] :=
    delivered_of_note unwritten noted replied
  have there : Task.event object ns ∈ w.waiting ++ w.working.map Job.task := by
    simp [works, event]
  have synced := sound.synced_of_event there
  have fresh : job.fresh = true := by
    simpa [Job.fresh, event] using few
  have writes : (w.answered set? front back job turn left).writes = w.writes := by
    simp [answered, unwritten]
  have notes : (w.answered set? front back job turn left).notes = w.notes + 1 := by
    simp [answered, noted]
  have events : (w.answered set? front back job turn left).events + 1 = w.events := by
    simpa [brought, fresh] using events_answered set? turn left works
  refine ⟨⟨beside.ready sound.ready, ?_, ?_, ?_, ?_, ?_, ?_, ?_⟩, ?_⟩
  · intro live there
    exact sound.heeded live ((beside.sets _).symm.trans there)
  · simp only [answered, brought]
    exact List.forall_mem_append.mpr ⟨sound.tasks, List.forall_mem_singleton.mpr .pass⟩
  · exact promised beside others promising
  · exact Or.inl (beside.synced_iff.mpr synced)
  · rw [writes]
    exact sound.writes
  · have before := sound.notes
    omega
  · have before := sound.passes
    rw [notes]
    simp only [answered, brought, List.countP_append, List.countP_singleton, Task.isPass_pass,
      if_true]
    omega
  · have weight := weight_answered set? turn left works few
    have one : Task.weight (.pass t.ns (.str t.name)) = 6 := rfl
    simp only [brought, fresh, writes, one, List.map_singleton, List.sum_singleton, if_true] at weight
    omega

theorem write (sound : Sound answer storage? set? t w) (works : w.working = front ++ job :: back)
    (few : job.asked + 1 ≤ job.task.most)
    (promising : Promising answer storage? set? t ⟨job.task, job.asked + 1, left⟩ turn.after)
    (pass : job.task.isPass = true) {object stored : Json}
    (written : turn.exchange.request.written? = some ⟨t.ns, .str t.name⟩)
    (unnoted : turn.exchange.request.noted? = none) (replied : turn.exchange.reply = .ok object)
    (there : set? turn.after ⟨t.ns, .str t.name⟩ = some stored) (heeded : Heeded t stored)
    (unsynced : ¬ Synced set? t w.cluster) (synced : Synced set? t turn.after)
    (ready : Ready storage? set? t.ns (.str t.name) t turn.after) :
    Sound answer storage? set? t (w.answered set? front back job turn left) ∧
      (w.answered set? front back job turn left).weight < w.weight := by
  have brought : delivered set? turn = [.event stored t.ns] :=
    delivered_of_write written unnoted replied there
  -- Before the write there is nothing but the pass that makes it.
  obtain ⟨unwritten, alone⟩ := sound.synced.resolve_left unsynced
  obtain ⟨idle, rfl, kind, rfl⟩ : w.waiting = [] ∧ front = [] ∧
      job.task = .pass t.ns (.str t.name) ∧ back = [] := by
    simpa [works, List.append_eq_singleton_iff, List.append_eq_cons_iff] using alone
  have stale : job.fresh = false := Job.fresh_of_pass pass
  have writes : (w.answered set? [] [] job turn left).writes = 1 := by
    simp [answered, written, unwritten]
  have notes : (w.answered set? [] [] job turn left).notes = w.notes := by
    simp [answered, unnoted]
  have events : (w.answered set? [] [] job turn left).events = w.events + 1 := by
    simpa [brought, stale] using events_answered set? turn left works
  refine ⟨⟨ready, ?_, ?_, ?_, Or.inl synced, ?_, ?_, ?_⟩, ?_⟩
  · intro live present
    cases there.symm.trans present
    exact heeded
  · simp only [answered, idle, brought]
    exact List.forall_mem_singleton.mpr (.event heeded)
  · exact List.forall_mem_singleton.mpr promising
  · exact Nat.le_of_eq writes
  · have before := sound.notes
    omega
  · rw [notes]
    simpa [answered, brought] using sound.passes
  · have weight := weight_answered set? turn left works few
    have one : Task.weight (.event stored t.ns) = 9 := rfl
    simp only [brought, stale, writes, one, List.map_singleton, List.sum_singleton] at weight
    omega

end

/-- Every step keeps the invariant and lowers the weight. -/
theorem step [Redaction.VisitingOrder] [Duration δ] {d : Dispatcher δ} {settings : Settings δ}
    (sound : Sound answer storage? set? t w) (settling : Settling answer storage? set?)
    (referring : Referring answer set?) (noting : Noting answer storage? set?)
    (bound : d.reconciler = some settings) (step : Step answer set? d w w') :
    Sound answer storage? set? t w' ∧ w'.weight < w.weight := by
  cases step with
  | begin c retry waits => exact sound.begin settling noting bound c retry waits
  | finish works ends => exact sound.finish works ends
  | @request front back job request next works asks =>
    obtain ⟨promising, _⟩ := sound.jobs_of_works works
    obtain ⟨proper, few, rest⟩ := promising.answered asks
    cases kind : job.task with
    | pass ns name =>
      have pass : job.task.isPass = true := by rw [kind, Task.isPass_pass]
      rw [kind] at proper
      cases proper with
      | aside unwritten unnoted beside =>
        exact sound.aside works few rest pass unwritten unnoted beside
      | write writes replied unsynced synced ready =>
        obtain ⟨written, stored, there, heeded⟩ :=
          heeded_of_writes referring writes replied sound.heeded
        exact sound.write works few rest pass written writes.unnoted replied there heeded unsynced
          synced (ready sound.ready)
    | event object ns =>
      rw [kind] at proper
      obtain ⟨noted, ⟨reply, replied⟩, beside⟩ := proper
      exact sound.note works few rest kind noted replied beside

theorem run [Redaction.VisitingOrder] [Duration δ] {d : Dispatcher δ} {settings : Settings δ}
    {n : Nat} (sound : Sound answer storage? set? t w) (settling : Settling answer storage? set?)
    (referring : Referring answer set?) (noting : Noting answer storage? set?)
    (bound : d.reconciler = some settings) (run : Runs answer set? d n w w') :
    Sound answer storage? set? t w' ∧ w'.weight + n ≤ w.weight := by
  induction run with
  | none w => exact ⟨sound, Nat.le_refl _⟩
  | step run last ih =>
    obtain ⟨sound', fewer⟩ := ih sound
    obtain ⟨sound'', less⟩ := sound'.step settling referring noting bound last
    exact ⟨sound'', by omega⟩

end Sound

theorem sound_start {cluster : σ} (ready : Ready storage? set? t.ns (.str t.name) t cluster)
    (heeded : ∀ live, set? cluster ⟨t.ns, t.name⟩ = some live → Heeded t live) :
    Sound answer storage? set? t (start cluster t.ns (.str t.name) : Loop σ δ) where
  ready := ready
  heeded := heeded
  tasks := List.forall_mem_singleton.mpr .pass
  jobs := by simp [start]
  synced := Or.inr ⟨rfl, rfl⟩
  writes := Nat.zero_le 1
  notes := Nat.le_refl _
  passes := Nat.le_refl _

/-- From one pass that waits, over a resource and a StatefulSet as they must be for passes to converge,
every run ends within fifteen steps, after at most two passes, one write of a StatefulSet and one note
on the resource; and where a run cannot go on, nothing is left to do and the StatefulSet is in sync. -/
theorem feedback_ends [Redaction.VisitingOrder] [Duration δ] {d : Dispatcher δ}
    {settings : Settings δ} {resource : Json} {cluster : σ}
    (settling : Settling answer storage? set?) (referring : Referring answer set?)
    (noting : Noting answer storage? set?) (bound : d.reconciler = some settings)
    (stored : storage? cluster ⟨t.ns, t.name⟩ = some resource) (owned : StorageShaped resource)
    (wf : resource.wellFormed = true) (staying : deleting resource = false)
    (accepted : Topology.ofResource resource = .ok t)
    (present : ∀ live, set? cluster ⟨t.ns, t.name⟩ = some live →
      SetShaped live ∧ live.wellFormed = true ∧ (controllerOf live = .ok none ∨ ∃ reference,
        controllerOf live = .ok (some reference) ∧ reference.get? "name" = some (.str t.name))) :
    ∀ n w, Runs answer set? d n (start cluster t.ns t.name) w →
      n ≤ 15 ∧ w.passes ≤ 2 ∧ w.writes ≤ 1 ∧ w.notes ≤ 1 ∧
      ((∀ w', ¬ Step answer set? d w w') → w.waiting = [] ∧ w.working = [] ∧
        ∃ live, set? w.cluster ⟨t.ns, t.name⟩ = some live ∧
          (Managed.view t.manifest).isSubset live = true) := by
  intro n w run
  have ready : Ready storage? set? t.ns (.str t.name) t cluster := by
    refine ⟨resource, stored, owned, staying, accepted, fun _ => wf, ?_⟩
    intro live there
    obtain ⟨shaped, wf, _⟩ := present live there
    exact ⟨shaped, Or.inr wf⟩
  have heeded : ∀ live, set? cluster ⟨t.ns, t.name⟩ = some live → Heeded t live := by
    intro live there
    obtain ⟨shaped, _, controller⟩ := present live there
    exact ⟨shaped.metadata, controller⟩
  obtain ⟨sound, fewer⟩ := (sound_start ready heeded).run settling referring noting bound run
  have whole : (start cluster t.ns (.str t.name) : Loop σ δ).weight = 15 := by
    simp [weight, start, Task.weight]
  have writes := sound.writes
  have notes := sound.notes
  have passes := sound.passes
  refine ⟨by omega, by omega, writes, by omega, ?_⟩
  intro stuck
  obtain ⟨waiting, working⟩ := idle_of_stuck stuck
  obtain ⟨live, there, _, sync⟩ : Synced set? t w.cluster := by
    rcases sound.synced with synced | ⟨_, alone⟩
    · exact synced
    · rw [waiting, working] at alone
      cases alone
  exact ⟨waiting, working, live, there, sync⟩

open Redaction.TokenFirst in
/-- A StatefulSet that the resource controls and that somebody has scaled. -/
theorem feedback_ends_scaled :
    let s : Settings Rat := ⟨8080, 30, 4, 1, 60, 2, 5, 300, ""⟩
    let d : Dispatcher Rat := { settings := s, reconciler := some s }
    let id : Identity := ⟨"swift", "storage"⟩
    let resource : Json := .obj
      [("metadata", .obj [("namespace", "swift"), ("name", "storage"), ("uid", "u-1")])]
    let reference : Json := .obj
      [("apiVersion", "swift.openstack.org/v1beta1"), ("kind", "SwiftStorage"),
       ("name", "storage"), ("uid", "u-1"), ("controller", .bool true)]
    let live : Json := .obj
      [("metadata", .obj [("namespace", "swift"), ("name", "storage"), ("resourceVersion", "1"),
        ("ownerReferences", .arr [reference])]), ("spec", .obj [("replicas", .int 9)])]
    let store : Store := ⟨[(id, resource)], [(id, live)], 1⟩
    ∃ t, Topology.ofResource resource = .ok t ∧
      ∀ n w, Runs Store.answer Store.set? d n (start store "swift" "storage") w →
        n ≤ 15 ∧ w.passes ≤ 2 ∧ w.writes ≤ 1 ∧ w.notes ≤ 1 ∧
        ((∀ w', ¬ Step Store.answer Store.set? d w w') → w.waiting = [] ∧ w.working = [] ∧
          ∃ live, w.cluster.set? id = some live ∧
            (Managed.view t.manifest).isSubset live = true) := by
  intro s d id resource reference live store
  have storage : StorageShaped resource := by
    refine ⟨⟨_, rfl⟩, ?_⟩
    intro status h
    cases h
  have shaped : SetShaped live := by
    refine ⟨⟨_, rfl⟩, ?_⟩
    intro status h
    cases h
  refine ⟨_, rfl, feedback_ends Store.settling Store.referring Store.noting rfl rfl storage rfl rfl
    rfl ?_⟩
  intro other there
  cases there
  exact ⟨shaped, rfl, Or.inr ⟨reference, rfl, rfl⟩⟩

end Loop

end StorageController
