import StorageController.Proofs.Cluster.StatusCoherence

namespace StorageController

open Json Condition

variable {δ : Type}

/-- Changes of a resource by others, of which the server keeps count: the generation is a number that
never falls. -/
structure Updated (before after : Json) : Prop extends Edited before after where
  counted : ∀ m, generationOf before = .int m → ∃ n, generationOf after = .int n ∧ m ≤ n

namespace Visit

def Reads (v : Visit) (ns name : Json) (generation : Int) : Prop :=
  ∃ resource, v.Read ns name resource ∧ generationOf resource = .int generation

/-- The visit has applied the topology of the resource that it read at a generation: the StatefulSet
was created, patched or found unchanged. -/
def Succeeded (v : Visit) (ns name : Json) (generation : Int) : Prop :=
  ∃ resource t applying applied rest,
    v.exchanges = ⟨.readStorage ns name, .ok resource⟩ :: (applying ++ rest) ∧
    generationOf resource = .int generation ∧ Topology.ofResource resource = .ok t ∧
    Application t resource applying (.ok applied) ∧ applied.fault? = none

variable {v : Visit} {ns name : Json} {m n : Int}

theorem read_unique {resource other : Json} (h : v.Read ns name resource)
    (h' : v.Read ns name other) : resource = other := by
  obtain ⟨rest, eq⟩ := h
  obtain ⟨rest', eq'⟩ := h'
  cases eq.symm.trans eq'
  rfl

theorem reads_unique (h : v.Reads ns name m) (h' : v.Reads ns name n) : m = n := by
  obtain ⟨resource, read, counted⟩ := h
  obtain ⟨other, read', counted'⟩ := h'
  cases read_unique read read'
  cases counted.symm.trans counted'
  rfl

theorem Succeeded.reads (h : v.Succeeded ns name m) : v.Reads ns name m := by
  obtain ⟨resource, t, applying, applied, rest, eq, counted, _⟩ := h
  exact ⟨resource, ⟨_, eq⟩, counted⟩

theorem Reads.answered {request : Request} {reply : Reply} (h : v.Reads ns name m) :
    (v.answered request reply).Reads ns name m := by
  obtain ⟨resource, read, counted⟩ := h
  exact ⟨resource, answered_of_read read, counted⟩

theorem Succeeded.answered {request : Request} {reply : Reply} (h : v.Succeeded ns name m) :
    (v.answered request reply).Succeeded ns name m := by
  obtain ⟨resource, t, applying, applied, rest, eq, others⟩ := h
  refine ⟨resource, t, applying, applied, rest ++ [⟨request, reply⟩], ?_, others⟩
  rw [Visit.answered, eq, List.cons_append, List.append_assoc]

end Visit

/-- Visits, newest first, that have read generations in their order, up to the present one. -/
structure Paced (ns name : Json) (present : Int) (visits : List Visit) : Prop where
  counted : ∀ v ∈ visits, ∀ resource, v.Read ns name resource →
    ∃ m, generationOf resource = .int m ∧ m ≤ present
  ordered : visits.Pairwise fun newer older =>
    ∀ m n, newer.Reads ns name m → older.Reads ns name n → n ≤ m

namespace Paced

variable {ns name : Json} {present later m : Int} {visits older : List Visit} {v : Visit}

theorem bounded (paced : Paced ns name present visits) (mem : v ∈ visits)
    (reads : v.Reads ns name m) : m ≤ present := by
  obtain ⟨resource, read, counted⟩ := reads
  obtain ⟨n, counted', le⟩ := paced.counted v mem resource read
  cases counted.symm.trans counted'
  exact le

theorem mono (paced : Paced ns name present visits) (le : present ≤ later) :
    Paced ns name later visits := by
  refine ⟨?_, paced.ordered⟩
  intro v mem resource read
  obtain ⟨m, counted, bound⟩ := paced.counted v mem resource read
  exact ⟨m, counted, Int.le_trans bound le⟩

/-- A visit that has read nothing yet is in order. -/
theorem begin (paced : Paced ns name present visits) (c : Context) :
    Paced ns name present (⟨c, []⟩ :: visits) := by
  have unread : ∀ resource, ¬ (⟨c, []⟩ : Visit).Read ns name resource := by
    rintro resource ⟨rest, eq⟩
    cases eq
  constructor
  · intro v mem resource read
    rcases List.mem_cons.mp mem with rfl | mem
    · exact absurd read (unread resource)
    · exact paced.counted v mem resource read
  · refine List.pairwise_cons.mpr ⟨?_, paced.ordered⟩
    rintro older _ m n ⟨resource, read, _⟩
    exact absurd read (unread resource)

/-- The newest visit stays in order when it is answered, as long as what it reads is present. -/
theorem answered [Redaction.VisitingOrder] {s : Settings δ} {request : Request} {reply : Reply}
    {current : Json} (paced : Paced ns name present (v :: older)) (asks : v.Asks s ns name request)
    (counted : generationOf current = .int present)
    (honest : ∀ object, request = .readStorage ns name → reply = .ok object → object = current) :
    Paced ns name present (v.answered request reply :: older) := by
  -- What is read is either known to be in order, or it is present.
  have known : ∀ m, (v.answered request reply).Reads ns name m →
      v.Reads ns name m ∨ m = present := by
    rintro m ⟨resource, read, counted'⟩
    rcases Visit.read_of_answered asks read with read | ⟨_, reads, delivered⟩
    · exact Or.inl ⟨resource, read, counted'⟩
    · obtain rfl := honest resource reads delivered
      cases counted.symm.trans counted'
      exact Or.inr rfl
  obtain ⟨before, others⟩ := List.pairwise_cons.mp paced.ordered
  constructor
  · intro u mem resource read
    rcases List.mem_cons.mp mem with rfl | mem
    · rcases Visit.read_of_answered asks read with read | ⟨_, reads, delivered⟩
      · exact paced.counted v List.mem_cons_self resource read
      · obtain rfl := honest resource reads delivered
        exact ⟨present, counted, Int.le_refl present⟩
    · exact paced.counted u (List.mem_cons_of_mem _ mem) resource read
  · refine List.pairwise_cons.mpr ⟨?_, others⟩
    intro u mem m n reads reads'
    rcases known m reads with reads | rfl
    · exact before u mem m n reads reads'
    · exact paced.bounded (List.mem_cons_of_mem _ mem) reads'

end Paced

/-- The last visit that has applied a topology has applied one of a generation. -/
def LastApplied (ns name : Json) (generation : Int) (visits : List Visit) : Prop :=
  ∃ newer last older, visits = newer ++ last :: older ∧
    (∀ v ∈ newer, ∀ m, ¬ v.Succeeded ns name m) ∧ last.Succeeded ns name generation

theorem Paced.lastApplied {ns name : Json} {present m : Int} {visits : List Visit}
    (paced : Paced ns name present visits) (h : ∃ v ∈ visits, v.Succeeded ns name m) :
    ∃ n, LastApplied ns name n visits ∧ m ≤ n := by
  have ordered := paced.ordered
  clear paced
  induction ordered with
  | nil => simp at h
  | @cons newest older before _ ih =>
    obtain ⟨v, mem, succeeded⟩ := h
    by_cases latest : ∃ n, newest.Succeeded ns name n
    · obtain ⟨n, succeeded'⟩ := latest
      refine ⟨n, ⟨[], newest, older, rfl, by simp, succeeded'⟩, ?_⟩
      rcases List.mem_cons.mp mem with rfl | mem
      · exact Int.le_of_eq (Visit.reads_unique succeeded.reads succeeded'.reads)
      · exact before v mem n m succeeded'.reads succeeded.reads
    · have unapplied : ∀ n, ¬ newest.Succeeded ns name n := not_exists.mp latest
      rcases List.mem_cons.mp mem with rfl | mem
      · exact absurd succeeded (unapplied m)
      obtain ⟨n, ⟨newer, last, rest, rfl, others, applied⟩, le⟩ := ih ⟨v, mem, succeeded⟩
      exact ⟨n, ⟨newest :: newer, last, rest, rfl, List.forall_mem_cons.mpr ⟨unapplied, others⟩,
        applied⟩, le⟩

def statusIn (resource : Json) : Json :=
  (resource.get? "status").getD .null

def observedIn (resource : Json) : Option Json :=
  (statusIn resource).get? "observedGeneration"

def SaysApplied (resource : Json) : Prop :=
  Says (statusIn resource) specInvalidType false ∧ Says (statusIn resource) applyFailedType false

/-- What holds between any two steps of a life that began without a status. -/
structure World.Honest (ns name : Json) (w : World) : Prop where
  paced : ∃ present, generationOf w.resource = .int present ∧ Paced ns name present w.visits
  observed : ∀ value, observedIn w.resource = some value →
    ∃ v ∈ w.visits, ∃ g, value = .int g ∧ v.Reads ns name g
  applied : SaysApplied w.resource → ∀ g, observedIn w.resource = some (.int g) →
    ∃ v ∈ w.visits, v.Succeeded ns name g

theorem get?_of_not_truthy {j : Json} (h : j.truthy = false) (key : String) :
    j.get? key = none := by
  cases j with
  | obj fields =>
    cases fields with
    | nil => rfl
    | cons field rest => cases h
  | _ => rfl

theorem says_unique {status : Json} {type : String} {holds other : Bool}
    (h : Says status type holds) (h' : Says status type other) : holds = other := by
  obtain ⟨condition, found, told⟩ := h
  obtain ⟨condition', found', told'⟩ := h'
  cases found.symm.trans found'
  exact statusOf_inj.mp (Option.some.inj (told.symm.trans told'))

theorem InvalidStatus.tells [Redaction.VisitingOrder] {clock : Clock} {resource status : Json}
    {fault : Fault} (written : InvalidStatus clock resource fault status) (served : Served resource)
    (target : Json) : Says (target.merge status) specInvalidType true := by
  obtain ⟨recorded, _⟩ := written.stored (generationOf_ne_obj served) target
  obtain ⟨⟨_, invalid⟩, _⟩ := List.forall_mem_cons.mp
    (reported_of_recorded (invalidReports_separate _ _) served.entries recorded)
  exact (says_iff invalid).mpr rfl

theorem OutcomeStatus.tells [Redaction.VisitingOrder] {clock : Clock} {resource status : Json}
    {t : Topology} {applied : Applied} (written : OutcomeStatus clock resource t applied status)
    (served : Served resource)
    (accepted : Topology.ofResource resource = .ok t) (target : Json) :
    applied.fault? = none ∨ Says (target.merge status) applyFailedType true := by
  obtain ⟨counted, reports, reported, recorded, _⟩ := written.stored
    (generation_of_accepted served.toStorageShaped accepted) (generationOf_ne_obj served) target
  have stands := reported_of_recorded reported.separate served.entries recorded
  cases reported with
  | failed =>
    obtain ⟨⟨_, failed⟩, _⟩ := List.forall_mem_cons.mp stands
    exact Or.inr ((says_iff failed).mpr rfl)
  | applied well _ => exact Or.inl well

theorem exists_answered {P : Visit → Prop} {v : Visit} {older : List Visit} {request : Request}
    {reply : Reply} (keeps : P v → P (v.answered request reply)) (h : ∃ u ∈ v :: older, P u) :
    ∃ u ∈ v.answered request reply :: older, P u := by
  obtain ⟨u, mem, holds⟩ := h
  rcases List.mem_cons.mp mem with rfl | mem
  · exact ⟨_, List.mem_cons_self, keeps holds⟩
  · exact ⟨u, List.mem_cons_of_mem _ mem, holds⟩

namespace World

variable {s : Settings δ} {ns name : Json} {w w' : World}

theorem honest_start {resource : Json} {g : Int} (counted : generationOf resource = .int g)
    (bare : (statusIn resource).truthy = false) : Honest ns name (start resource) where
  paced := ⟨g, counted, by simp [start], List.Pairwise.nil⟩
  observed := by
    intro value observed
    cases (get?_of_not_truthy bare _).symm.trans observed
  applied := by
    intro _ g observed
    cases (get?_of_not_truthy bare _).symm.trans observed

variable [Redaction.VisitingOrder]

/-- What is stored for a visit: the generation that it has read, and it says that nothing failed only
if the visit has applied the topology. -/
theorem Honest.stored {v : Visit} {older : List Visit} {status after : Json}
    (honest : Honest ns name w) (sound : Sound ns name w) (newest : w.visits = v :: older)
    (asks : v.Asks s ns name (.patchStatus ns name status))
    (change : StatusWritten w.resource status after) :
    ∃ m, v.Reads ns name m ∧ observedIn after = some (.int m) ∧
      (SaysApplied after → v.Succeeded ns name m) := by
  obtain ⟨resource, front, eq, served, _, written⟩ := sound.written newest asks
  obtain ⟨present, _, paced⟩ := honest.paced
  obtain ⟨m, counted, _⟩ := paced.counted v (newest ▸ List.mem_cons_self) resource ⟨front, eq⟩
  refine ⟨m, ⟨resource, ⟨front, eq⟩, counted⟩, ?_⟩
  rw [SaysApplied, observedIn, statusIn, change.status, Option.getD_some, ← counted]
  cases written with
  | malformed _ _ written =>
    refine ⟨(written.stored (generationOf_ne_obj served) _).2, ?_⟩
    rintro ⟨valid, _⟩
    cases says_unique valid (written.tells served _)
  | @reported t _ applied _ _ accepted way written =>
    have same := generation_of_accepted served.toStorageShaped accepted
    obtain ⟨_, _, _, _, observed, _⟩ := written.stored same (generationOf_ne_obj served)
      ((w.resource.get? "status").getD .null)
    rw [← same]
    refine ⟨observed, ?_⟩
    rintro ⟨_, settled⟩
    rcases written.tells served accepted ((w.resource.get? "status").getD .null) with well | failed
    · exact ⟨resource, t, front, applied, [], by rw [eq, List.append_nil], counted, accepted, way,
        well⟩
    · cases says_unique settled failed

theorem Honest.step (honest : Honest ns name w) (sound : Sound ns name w)
    (step : Step s Updated ns name w w') : Honest ns name w' := by
  obtain ⟨present, counted, paced⟩ := honest.paced
  cases step with
  | @edit after updated =>
    obtain ⟨later, counted', le⟩ := updated.counted present counted
    have same : statusIn after = statusIn w.resource := by
      rw [statusIn, statusIn, updated.status]
    refine ⟨⟨later, counted', paced.mono le⟩, ?_, ?_⟩
    · rw [observedIn, same]
      exact honest.observed
    · rw [SaysApplied, observedIn, same]
      exact honest.applied
  | begin c =>
    refine ⟨⟨present, counted, paced.begin c⟩, ?_, ?_⟩
    · intro value observed
      obtain ⟨v, mem, reads⟩ := honest.observed value observed
      exact ⟨v, List.mem_cons_of_mem _ mem, reads⟩
    · intro told g observed
      obtain ⟨v, mem, succeeded⟩ := honest.applied told g observed
      exact ⟨v, List.mem_cons_of_mem _ mem, succeeded⟩
  | answer newest asks delivers =>
    rw [newest] at paced
    refine ⟨⟨present, counted, paced.answered asks counted delivers⟩, ?_, ?_⟩
    · intro value observed
      have known := honest.observed value observed
      rw [newest] at known
      exact exists_answered (fun ⟨g, eq, reads⟩ => ⟨g, eq, reads.answered⟩) known
    · intro told g observed
      have known := honest.applied told g observed
      rw [newest] at known
      exact exists_answered Visit.Succeeded.answered known
  | @store v older status after reply newest asks change =>
    obtain ⟨m, reads, observed, succeeds⟩ := honest.stored sound newest asks change
    rw [newest] at paced
    have same : generationOf after = generationOf w.resource := by
      rw [generationOf, change.path?_metadata sound.served.toStorageShaped (by simp [declaredKeys])]
      rfl
    refine ⟨⟨present, same.trans counted, paced.answered asks counted (by simp)⟩, ?_, ?_⟩
    · intro value observed'
      cases observed.symm.trans observed'
      exact ⟨_, List.mem_cons_self, m, rfl, reads.answered⟩
    · intro told g observed'
      cases observed.symm.trans observed'
      exact ⟨_, List.mem_cons_self, (succeeds told).answered⟩

/-- The generation that the status reports never falls. -/
theorem Honest.observed_step {g : Int} (honest : Honest ns name w) (sound : Sound ns name w)
    (step : Step s Updated ns name w w')
    (observed : observedIn w.resource = some (.int g)) :
    ∃ g', observedIn w'.resource = some (.int g') ∧ g ≤ g' := by
  cases step with
  | edit updated =>
    refine ⟨g, ?_, Int.le_refl g⟩
    rw [observedIn, statusIn, updated.status]
    exact observed
  | begin => exact ⟨g, observed, Int.le_refl g⟩
  | answer => exact ⟨g, observed, Int.le_refl g⟩
  | @store v older status after reply newest asks change =>
    obtain ⟨m, reads, observed', _⟩ := honest.stored sound newest asks change
    refine ⟨m, observed', ?_⟩
    -- The generation reported so far was read by this visit or by an older one.
    obtain ⟨u, mem, _, eq, reads'⟩ := honest.observed _ observed
    cases eq
    obtain ⟨present, _, paced⟩ := honest.paced
    rw [newest] at mem paced
    rcases List.mem_cons.mp mem with rfl | mem
    · exact Int.le_of_eq (Visit.reads_unique reads' reads)
    · exact (List.pairwise_cons.mp paced.ordered).1 u mem m g reads reads'

theorem Honest.steps (honest : Honest ns name w) (sound : Sound ns name w)
    (run : Relation.ReflTransGen (Step s Updated ns name) w w') :
    Sound ns name w' ∧ Honest ns name w' := by
  induction run with
  | refl => exact ⟨sound, honest⟩
  | tail _ step ih =>
    obtain ⟨sound, honest⟩ := ih
    exact ⟨sound.step (fun _ _ updated => updated.toEdited) step, honest.step sound step⟩

theorem Honest.observed_steps {g : Int} (honest : Honest ns name w) (sound : Sound ns name w)
    (further : Relation.ReflTransGen (Step s Updated ns name) w w')
    (observed : observedIn w.resource = some (.int g)) :
    ∃ g', observedIn w'.resource = some (.int g') ∧ g ≤ g' := by
  induction further with
  | refl => exact ⟨g, observed, Int.le_refl g⟩
  | tail before step ih =>
    obtain ⟨sound, honest⟩ := honest.steps sound before
    obtain ⟨k, reported, le⟩ := ih
    obtain ⟨k', reported', le'⟩ := honest.observed_step sound step reported
    exact ⟨k', reported', Int.le_trans le le'⟩

end World

/-- In every life of a resource that began without a status, with whatever edits and failures, the
generation that the status reports is at most that of the resource, and it never falls; where the
status says that nothing failed, it was applied, and whatever was applied last was no older. -/
theorem status_never_ahead [Redaction.VisitingOrder] {s : Settings δ} {ns name resource : Json}
    {first : Int} {w later : World} (served : Served resource)
    (counted : generationOf resource = .int first)
    (bare : (statusIn resource).truthy = false)
    (run : Relation.ReflTransGen (World.Step s Updated ns name) (World.start resource) w)
    (further : Relation.ReflTransGen (World.Step s Updated ns name) w later) :
    (∀ value, observedIn w.resource = some value →
      ∃ g present, value = .int g ∧ generationOf w.resource = .int present ∧ g ≤ present) ∧
    (∀ g, observedIn w.resource = some (.int g) →
      ∃ g', observedIn later.resource = some (.int g') ∧ g ≤ g') ∧
    (SaysApplied w.resource → ∀ g, observedIn w.resource = some (.int g) →
      (∃ v ∈ w.visits, v.Succeeded ns name g) ∧ ∃ m, LastApplied ns name m w.visits ∧ g ≤ m) := by
  obtain ⟨sound, honest⟩ :=
    (World.honest_start counted bare).steps (World.sound_start served) run
  obtain ⟨present, counted', paced⟩ := honest.paced
  refine ⟨?_, fun g => honest.observed_steps sound further, ?_⟩
  · intro value observed
    obtain ⟨v, mem, g, rfl, reads⟩ := honest.observed value observed
    exact ⟨g, present, rfl, counted', paced.bounded mem reads⟩
  · intro told g observed
    have known := honest.applied told g observed
    exact ⟨known, paced.lastApplied known⟩

open Redaction.TokenFirst in
/-- A visit reads the resource, somebody scales it, and the visit reports what it has applied. -/
theorem status_never_ahead_scaled :
    let s : Settings Nat := ⟨8080, 30, 4, 1, 60, 2, 5, 300, ""⟩
    let resource (generation replicas : Int) : Json := .obj
      [("metadata", .obj [("namespace", "swift"), ("name", "storage"), ("uid", "u-1"),
         ("generation", .int generation)]), ("spec", .obj [("replicas", .int replicas)])]
    ∃ w : World,
      Relation.ReflTransGen (World.Step s Updated "swift" "storage")
        (World.start (resource 2 1)) w ∧
      generationOf w.resource = .int 3 ∧ observedIn w.resource = some (.int 2) ∧
      SaysApplied w.resource ∧ (∃ v ∈ w.visits, v.Succeeded "swift" "storage" 2) ∧
      ∃ m, LastApplied "swift" "storage" m w.visits ∧ 2 ≤ m := by
  intro s resource
  let c : Context := ⟨0, {}, .off, [], []⟩
  let read : Exchange := ⟨.readStorage "swift" "storage", .ok (resource 2 1)⟩
  let missing : Exchange := ⟨.readSet "swift" "storage", .error (.notFound "not found")⟩
  obtain ⟨body, status, middle, next, reading, applying, observed, told⟩ :
      ∃ body status middle next,
      ((Pass.reconcile s "swift" "storage").start c).Reaches [read] middle ∧
      middle.Reaches [missing, ⟨.createSet "swift" body, .ok (.obj [])⟩]
        (.call (.patchStatus "swift" "storage" status) next) ∧
      observedIn (.obj [("status", Json.null.merge status)]) = some (.int 2) ∧
      SaysApplied (.obj [("status", Json.null.merge status)]) :=
    ⟨_, _, _, _, .call (.here _), .call (.call (.here _)), rfl, ⟨_, rfl, rfl⟩, ⟨_, rfl, rfl⟩⟩
  have served : Served (resource 2 1) := by
    refine ⟨⟨⟨_, rfl⟩, ?_⟩, ?_⟩
    · intro status h
      cases h
    · intro fields h
      cases h
  have scaled : Updated (resource 2 1) (resource 3 5) := by
    refine ⟨⟨rfl, ⟨_, rfl⟩, ?_⟩, ?_⟩
    · intro fields h
      cases h
    · intro m h
      cases h
      exact ⟨3, rfl, by decide⟩
  let began : World := { World.start (resource 2 1) with visits := [⟨c, []⟩] }
  let edited : World := { began with resource := resource 3 5, visits := [⟨c, [read]⟩] }
  have visited : Relation.ReflTransGen (World.Step s Updated "swift" "storage") began
      { began with visits := [⟨c, [read]⟩] } :=
    World.proceeds (w := began) rfl (.here _) reading (by simp [read, began, World.start])
  have applied : Relation.ReflTransGen (World.Step s Updated "swift" "storage") edited _ :=
    World.proceeds rfl reading applying (by simp [missing])
  have run := (((visited.head (.begin c)).tail (.edit scaled)).trans applied).tail
    (.store (.ok .null) rfl ⟨next, reading.trans applying⟩ (Store.statusWritten_setPath _ status))
  refine ⟨_, run, rfl, observed, told, ?_⟩
  exact (status_never_ahead served rfl rfl run .refl).2.2 told 2 observed

end StorageController
