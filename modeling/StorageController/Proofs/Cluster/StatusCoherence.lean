import StorageController.Proofs.Cluster.World

namespace StorageController

open Json Condition

variable {δ : Type}

def conditionOf (type : Json) (status : Json) : Option Json :=
  Condition.find type (conditionsOf status)

def Says (status : Json) (type : String) (holds : Bool) : Prop :=
  ∃ condition, conditionOf type status = some condition ∧
    condition.get? "status" = some (statusOf holds)

/-- The conditions that stand after some statuses were stored, the newest first. -/
def conditionsAfter : List StoredStatus → List Json
  | [] => []
  | newest :: _ => conditionsOf newest.status

def standing (type : Json) (stored : List StoredStatus) : Option Json :=
  (Condition.find type (conditionsAfter stored)).bind (·.get? "status")

/-- What the clock of the visit showed whose status last changed what the condition of a type says. -/
def changedAt (type : Json) : List StoredStatus → Option Int
  | [] => none
  | newest :: earlier =>
    if standing type (newest :: earlier) = standing type earlier then changedAt type earlier
    else some (newest.visit.context.clock.reading type)

/-- Each condition tells when it last changed. -/
def Timed (stored : List StoredStatus) : Prop :=
  ∀ type condition, Condition.find type (conditionsAfter stored) = some condition →
    ∃ time, changedAt type stored = some time ∧
      condition.get? "lastTransitionTime" = some (.str (Timestamp.text time))

def knownTypes : List Json :=
  [.str readyType, .str applyFailedType, .str specInvalidType]

/-- The conditions are of different types, all of them known. -/
def Typed (conditions : List Json) : Prop :=
  ∃ types, conditions.map (·.get? "type") = types.map some ∧ types.Nodup ∧ types ⊆ knownTypes

/-- A status that was stored after some earlier ones is coherent. -/
structure Coherent (ns name : Json) (newest : StoredStatus) (earlier : List StoredStatus) :
    Prop where
  typed : Typed (conditionsOf newest.status)
  ready : Says newest.status readyType true →
    Says newest.status applyFailedType false ∧ Says newest.status specInvalidType false ∧
    ∃ resource t counted worth, newest.visit.Read ns name resource ∧
      Topology.ofResource resource = .ok t ∧ newest.status.get? "readyCount" = some counted ∧
      counted.worth? = some worth ∧ (t.replicas : Rat) ≤ worth
  applyFailed : Says newest.status applyFailedType true → Says newest.status readyType false
  specInvalid : Says newest.status specInvalidType true →
    Says newest.status readyType false ∧ ∃ ready invalid message,
      conditionOf readyType newest.status = some ready ∧
      conditionOf specInvalidType newest.status = some invalid ∧
      ready.get? "reason" = some "SpecInvalid" ∧ ready.get? "message" = some message ∧
      invalid.get? "message" = some message
  generation : ∃ generation, newest.status.get? "observedGeneration" = some generation ∧
    ∀ type ∈ [readyType, specInvalidType], ∃ condition,
      conditionOf type newest.status = some condition ∧
      condition.get? "observedGeneration" = some generation
  timed : Timed (newest :: earlier)

variable {reports : List Report} {conditions : List Json} {clock : Clock}
  {newest : StoredStatus} {earlier : List StoredStatus}

/-- The reports of a status keep the times of the conditions that they do not change. -/
theorem timed_of_recorded (separate : Separate reports) (entries : Entries (conditionsAfter earlier))
    (timed : Timed earlier)
    (recorded : recordAll newest.visit.context.clock.texts reports
      (conditionsAfter earlier) = .ok (conditionsOf newest.status)) :
    Timed (newest :: earlier) := by
  intro type condition found
  have found' : Condition.find type (conditionsOf newest.status) = some condition := found
  have told : standing type (newest :: earlier) = condition.get? "status" := by
    rw [standing, found, Option.bind_some]
  rw [changedAt, told]
  by_cases reported : type ∈ reports.map Report.type
  · obtain ⟨r, mem, rfl⟩ := List.mem_map.mp reported
    have entry := find_recordAll separate entries recorded r mem
    cases found'.symm.trans entry
    rw [get?_entry_status, get?_entry_time]
    cases before : Condition.find r.type (conditionsAfter earlier) with
    | none =>
      rw [standing, before, Option.bind_none, if_neg (by simp)]
      exact ⟨_, rfl, rfl⟩
    | some old =>
      obtain ⟨clock, changed, time⟩ := timed r.type old before
      rw [standing, before, Option.bind_some, Report.since]
      by_cases same : old.get? "status" = some r.status
      · rw [if_pos same.symm, if_pos same, time]
        exact ⟨clock, changed, rfl⟩
      · rw [if_neg (Ne.symm same), if_neg same]
        exact ⟨_, rfl, rfl⟩
  · have kept := find_recordAll_of_not_mem separate entries recorded reported
    have old := kept.symm.trans found'
    obtain ⟨clock, changed, time⟩ := timed type condition old
    rw [standing, old, Option.bind_some, if_pos rfl]
    exact ⟨clock, changed, time⟩

theorem typed_of_recorded {entries : List Json} (separate : Separate reports)
    (shaped : Entries entries) (typed : Typed entries)
    (known : reports.map Report.type ⊆ knownTypes)
    (recorded : recordAll clock.texts reports entries = .ok conditions) :
    Typed conditions := by
  obtain ⟨types, eq, distinct, old⟩ := typed
  exact types_recordAll separate shaped recorded eq distinct old known

theorem get?_entry_generation (r : Report) (time : Json) (h : r.generation ≠ .null) :
    (r.entry time).get? "observedGeneration" = some r.generation := by
  rw [Report.entry, if_neg h]
  rfl

theorem generationOf_ne_obj {resource : Json} (served : Served resource) (fields : Fields) :
    generationOf resource ≠ .obj fields := by
  intro eq
  rw [generationOf, orElse] at eq
  split at eq
  next =>
    cases present : resource.path? ["metadata", "generation"] with
    | none => rw [present] at eq; cases eq
    | some generation =>
      rw [present] at eq
      exact served.generation fields (present.trans (congrArg some eq))
  next => cases eq

theorem statusOf_inj {holds other : Bool} : statusOf holds = statusOf other ↔ holds = other := by
  cases holds <;> cases other <;> simp [statusOf]

theorem says_iff {status time : Json} {type : String} {r : Report} {holds : Bool}
    (h : conditionOf type status = some (r.entry time)) :
    Says status type holds ↔ r.status = statusOf holds := by
  constructor
  · rintro ⟨condition, found, told⟩
    cases h.symm.trans found
    exact Option.some.inj told
  · intro told
    exact ⟨_, h, congrArg some told⟩

/-- What is reported stands among the conditions afterwards. -/
theorem reported_of_recorded {entries : List Json} {status : Json} (separate : Separate reports)
    (shaped : Entries entries)
    (recorded : recordAll clock.texts reports entries = .ok (conditionsOf status)) :
    ∀ r ∈ reports, ∃ time, conditionOf r.type status = some (r.entry time) :=
  fun r mem => ⟨_, find_recordAll separate shaped recorded r mem⟩

/-- The conditions carry the generation beside them if what was reported did. -/
theorem observed_of_reported {status generation ready invalid : Json} {r r' : Report}
    (observed : status.get? "observedGeneration" = some generation)
    (ne : generation ≠ .null) (standsReady : conditionOf readyType status = some (r.entry ready))
    (standsInvalid : conditionOf specInvalidType status = some (r'.entry invalid))
    (same : r.generation = generation) (same' : r'.generation = generation) :
    ∃ generation, status.get? "observedGeneration" = some generation ∧
      ∀ type ∈ [readyType, specInvalidType], ∃ condition,
        conditionOf type status = some condition ∧
        condition.get? "observedGeneration" = some generation := by
  refine ⟨generation, observed, ?_⟩
  simp only [List.forall_mem_cons]
  refine ⟨⟨_, standsReady, ?_⟩, ⟨_, standsInvalid, ?_⟩, by simp⟩
  · rw [get?_entry_generation r ready (same ▸ ne), same]
  · rw [get?_entry_generation r' invalid (same' ▸ ne), same']

theorem coherent_of_invalid [Redaction.VisitingOrder] {ns name resource status target : Json}
    {v : Visit} {fault : Fault} (served : Served resource)
    (written : InvalidStatus v.context.clock resource fault status)
    (before : conditionsIn resource = conditionsAfter earlier)
    (typed : Typed (conditionsAfter earlier)) (timed : Timed earlier) :
    Coherent ns name ⟨v, target.merge status⟩ earlier := by
  obtain ⟨recorded, observed⟩ := written.stored (generationOf_ne_obj served) target
  rw [before] at recorded
  have separate := invalidReports_separate fault (generationOf resource)
  have entries : Entries (conditionsAfter earlier) := before ▸ served.entries
  have known : (invalidReports fault (generationOf resource)).map Report.type ⊆ knownTypes := by
    simp [invalidReports, knownTypes, specInvalid, Condition.ready]
  obtain ⟨⟨_, invalid⟩, others⟩ :=
    List.forall_mem_cons.mp (reported_of_recorded separate entries recorded)
  obtain ⟨_, ready⟩ := List.forall_mem_singleton.mp others
  refine ⟨typed_of_recorded separate entries typed known recorded, ?_, ?_, ?_,
    observed_of_reported observed (generationOf_ne_null resource) ready invalid rfl rfl,
    timed_of_recorded separate entries timed recorded⟩
  · intro told
    cases statusOf_inj.mp ((says_iff ready).mp told)
  · intro _
    exact (says_iff ready).mpr rfl
  · intro _
    exact ⟨(says_iff ready).mpr rfl, _, _, _, ready, invalid, rfl, rfl, rfl⟩

theorem worth_of_atLeast {n : Int} {counted : Json} (h : Pass.atLeast n counted = .ok true) :
    ∃ worth, counted.worth? = some worth ∧ (n : Rat) ≤ worth := by
  unfold Pass.atLeast at h
  split at h
  next worth found => exact ⟨worth, found, of_decide_eq_true (Except.ok.inj h)⟩
  next => cases h

theorem scalar_of_worth {counted : Json} {worth : Rat} (h : counted.worth? = some worth) :
    counted ≠ .null ∧ ∀ fields, counted ≠ .obj fields := by
  constructor
  · rintro rfl
    cases h
  · rintro fields rfl
    cases h

theorem coherent_of_outcome [Redaction.VisitingOrder] {ns name resource status target : Json}
    {v : Visit} {t : Topology} {applied : Applied} (served : Served resource)
    (read : v.Read ns name resource)
    (accepted : Topology.ofResource resource = .ok t)
    (written : OutcomeStatus v.context.clock resource t applied status)
    (before : conditionsIn resource = conditionsAfter earlier)
    (typed : Typed (conditionsAfter earlier)) (timed : Timed earlier) :
    Coherent ns name ⟨v, target.merge status⟩ earlier := by
  have same := generation_of_accepted served.toStorageShaped accepted
  obtain ⟨counted, reports, reported, recorded, observed, counts⟩ :=
    written.stored same (generationOf_ne_obj served) target
  rw [before] at recorded
  have ne : t.generation ≠ .null := same ▸ generationOf_ne_null resource
  have separate := reported.separate
  have entries : Entries (conditionsAfter earlier) := before ▸ served.entries
  have known : reports.map Report.type ⊆ knownTypes := by
    rw [reported.types]
    simp [knownTypes]
  have typed' := typed_of_recorded separate entries typed known recorded
  have timed' : Timed (⟨v, target.merge status⟩ :: earlier) :=
    timed_of_recorded separate entries timed recorded
  have stands := reported_of_recorded separate entries recorded
  cases reported with
  | failed =>
    obtain ⟨_, others⟩ := List.forall_mem_cons.mp stands
    obtain ⟨⟨_, ready⟩, others⟩ := List.forall_mem_cons.mp others
    obtain ⟨_, valid⟩ := List.forall_mem_singleton.mp others
    refine ⟨typed', ?_, ?_, ?_, observed_of_reported observed ne ready valid rfl rfl, timed'⟩
    · intro told
      cases statusOf_inj.mp ((says_iff ready).mp told)
    · intro _
      exact (says_iff ready).mpr rfl
    · intro told
      cases statusOf_inj.mp ((says_iff valid).mp told)
  | @applied _ isReady well enough =>
    obtain ⟨⟨_, settled⟩, others⟩ := List.forall_mem_cons.mp stands
    obtain ⟨⟨_, ready⟩, others⟩ := List.forall_mem_cons.mp others
    obtain ⟨_, valid⟩ := List.forall_mem_singleton.mp others
    refine ⟨typed', ?_, ?_, ?_, observed_of_reported observed ne ready valid rfl rfl, timed'⟩
    · intro told
      obtain rfl : isReady = true := statusOf_inj.mp ((says_iff ready).mp told)
      obtain ⟨worth, count, enough⟩ := worth_of_atLeast enough
      obtain ⟨present, plain⟩ := scalar_of_worth count
      exact ⟨(says_iff settled).mpr rfl, (says_iff valid).mpr rfl, resource, t, counted, worth,
        read, accepted, counts present plain, count, enough⟩
    · intro told
      cases statusOf_inj.mp ((says_iff settled).mp told)
    · intro told
      cases statusOf_inj.mp ((says_iff valid).mp told)

/-- What holds between any two steps of a life that began without conditions: the last status that
was stored is the one that stands, and every one was coherent. -/
structure World.Chronicle (ns name : Json) (w : World) : Prop where
  current : conditionsIn w.resource = conditionsAfter w.stored
  standing : ∀ newest earlier, w.stored = newest :: earlier →
    w.resource.get? "status" = some newest.status
  coherent : ∀ newest earlier, newest :: earlier <:+ w.stored → Coherent ns name newest earlier

namespace World

variable {s : Settings δ} {edits : Json → Json → Prop} {ns name : Json} {w w' : World}

theorem chronicle_start {resource : Json} (bare : conditionsIn resource = []) :
    Chronicle ns name (start resource) :=
  ⟨bare, by simp [start], by simp [start]⟩

theorem Chronicle.typed (chronicle : Chronicle ns name w) : Typed (conditionsAfter w.stored) := by
  cases stored : w.stored with
  | nil => exact ⟨[], by simp [conditionsAfter]⟩
  | cons newest earlier =>
    exact (chronicle.coherent newest earlier (stored ▸ List.suffix_refl _)).typed

theorem Chronicle.timed (chronicle : Chronicle ns name w) : Timed w.stored := by
  cases stored : w.stored with
  | nil =>
    intro type condition none
    cases none
  | cons newest earlier =>
    exact (chronicle.coherent newest earlier (stored ▸ List.suffix_refl _)).timed

theorem Chronicle.step [Redaction.VisitingOrder] (chronicle : Chronicle ns name w)
    (sound : Sound ns name w) (edited : ∀ before after, edits before after → Edited before after)
    (step : Step s edits ns name w w') : Chronicle ns name w' := by
  cases step with
  | edit change =>
    have change := edited _ _ change
    refine ⟨(conditionsIn_congr change.status).trans chronicle.current, ?_, chronicle.coherent⟩
    intro newest earlier stored
    exact change.status.trans (chronicle.standing newest earlier stored)
  | begin => exact ⟨chronicle.current, chronicle.standing, chronicle.coherent⟩
  | answer => exact ⟨chronicle.current, chronicle.standing, chronicle.coherent⟩
  | @store v older status after reply newest asks change =>
    refine ⟨conditionsIn_of_status change.status, ?_, ?_⟩
    · intro newest' earlier stored
      cases stored
      exact change.status
    intro newest' earlier suffix
    rcases List.suffix_cons_iff.mp suffix with eq | suffix
    · cases eq
      obtain ⟨resource, front, eq, served, same, written⟩ := sound.written newest asks
      have before := (conditionsIn_congr same).trans chronicle.current
      cases written with
      | malformed _ _ written =>
        exact coherent_of_invalid served written before chronicle.typed chronicle.timed
      | reported _ accepted _ written =>
        exact coherent_of_outcome served ⟨front, eq⟩ accepted written before chronicle.typed
          chronicle.timed
    · exact chronicle.coherent newest' earlier suffix

end World

/-- In every life of a resource that began without conditions, whatever edits, failures and clocks
there were, the status is the one that was stored last, and every one that was stored is coherent. -/
theorem status_coherent [Redaction.VisitingOrder] {s : Settings δ} {ns name resource : Json}
    {w : World} (served : Served resource) (bare : conditionsIn resource = [])
    (run : Relation.ReflTransGen (World.Step s Edited ns name) (World.start resource) w) :
    (∀ newest earlier, w.stored = newest :: earlier →
      w.resource.get? "status" = some newest.status) ∧
    ∀ newest earlier, newest :: earlier <:+ w.stored → Coherent ns name newest earlier := by
  suffices invariant : w.Sound ns name ∧ w.Chronicle ns name from
    ⟨invariant.2.standing, invariant.2.coherent⟩
  induction run with
  | refl => exact ⟨World.sound_start served, World.chronicle_start bare⟩
  | tail _ step ih =>
    obtain ⟨sound, chronicle⟩ := ih
    have edited : ∀ before after, Edited before after → Edited before after := fun _ _ h => h
    exact ⟨sound.step edited step, chronicle.step sound edited step⟩

open Redaction.TokenFirst in
/-- A visit creates the StatefulSet, which is ready at once. -/
theorem status_coherent_created :
    let s : Settings Nat := ⟨8080, 30, 4, 1, 60, 2, 5, 300, ""⟩
    let resource : Json := .obj
      [("metadata", .obj [("namespace", "swift"), ("name", "storage"), ("uid", "u-1"),
         ("generation", .int 2)])]
    ∃ (w : World) (newest : StoredStatus),
      Relation.ReflTransGen (World.Step s Edited "swift" "storage") (World.start resource) w ∧
      w.stored = [newest] ∧ Says newest.status readyType true ∧
      Coherent "swift" "storage" newest [] := by
  intro s resource
  let c : Context := ⟨0, {}, .off, [], []⟩
  let read : Exchange := ⟨.readStorage "swift" "storage", .ok resource⟩
  let missing : Exchange := ⟨.readSet "swift" "storage", .error (.notFound "not found")⟩
  let live : Json := .obj [("status", .obj [("readyReplicas", .int 1)])]
  obtain ⟨body, status, next, reaches, told⟩ : ∃ body status next,
      ((Pass.reconcile s "swift" "storage").start c).Reaches
        [read, missing, ⟨.createSet "swift" body, .ok live⟩]
        (.call (.patchStatus "swift" "storage" status) next) ∧
      Says (Json.null.merge status) readyType true :=
    ⟨_, _, _, .call (.call (.call (.here _))), _, rfl, rfl⟩
  have served : Served resource := by
    refine ⟨⟨⟨_, rfl⟩, ?_⟩, ?_⟩
    · intro status h
      cases h
    · intro fields h
      cases h
  let began : World := { World.start resource with visits := [⟨c, []⟩] }
  have visited : Relation.ReflTransGen (World.Step s Edited "swift" "storage") began _ :=
    World.proceeds rfl (.here _) reaches (by simp [read, missing, began, World.start])
  have run := (visited.head (.begin c)).tail
    (.store (.ok .null) rfl ⟨next, reaches⟩ (Store.statusWritten_setPath resource status))
  refine ⟨_, _, run, rfl, told, ?_⟩
  exact (status_coherent served rfl run).2 _ _ (List.suffix_refl _)

end StorageController
