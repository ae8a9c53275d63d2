import StorageController.Proofs.Cluster.Referring
import StorageController.Proofs.StatefulSet.Ownership
import StorageController.Proofs.Pass.Convergence
import StorageController.Proofs.Pass.LostUpdate

namespace StorageController

open Json Ownership

variable {δ σ : Type} {answer : Request → σ → Reply × σ} {set? : σ → Identity → Option Json}
  {t : Topology} {resource : Json}

theorem KeepsReferences.controllerOf_body {reference stored : Json} (group : OfGroup resource)
    (referred : ownerReference resource = .ok reference)
    (keeps : KeepsReferences (t.body reference) stored) :
    controllerOf stored = .ok (some reference) := by
  obtain ⟨_, found⟩ := keeps.metadata.metadataIn
  have named : (t.body reference).path? ["metadata", "ownerReferences"] =
      some (.arr [reference]) := rfl
  rw [controllerOf_eq found, keeps.same, named]
  exact findController_singleton (isController_ownerReference group referred)

theorem KeepsReferences.controllerOf_merge {live patch stored : Json} {metadata : Fields}
    (modest : Modest patch) (readable : Pass.metadataIn live = .ok (.obj metadata))
    (keeps : KeepsReferences (live.merge patch) stored) :
    controllerOf stored = controllerOf live := by
  obtain ⟨_, found⟩ := keeps.metadata.metadataIn
  exact controllerOf_congr found readable (keeps.same.trans (modest.path?_merge (by simp) live))

theorem metadataIn_of_versionOf {live version : Json} (h : Pass.versionOf live = .ok version) :
    ∃ metadata, Pass.metadataIn live = .ok (.obj metadata) := by
  cases found : Pass.metadataIn live with
  | error fault =>
    replace found : live.lookupOr "metadata" (.obj []) = .error fault := found
    rw [Pass.versionOf, found] at h
    cases h
  | ok metadata =>
    have looked : live.lookupOr "metadata" (.obj []) = .ok metadata := found
    rw [Pass.versionOf, looked] at h
    cases metadata with
    | obj inside => exact ⟨inside, rfl⟩
    | _ => cases h

theorem fault_of_ofFault {attempt : Option (Json × Json)} {fault : Fault} {a : Applied}
    (h : Applied.ofFault attempt fault = .ok a) : a.fault? = some fault := by
  rw [Applied.ofFault] at h
  split at h <;> cases h
  rfl

theorem ok_of_ofWrite {done : Json → Applied} {attempt : Option (Json × Json)} {reply : Reply}
    {a : Applied} (h : Applied.ofWrite done attempt reply = .ok a) (well : a.fault? = none) :
    ∃ object, reply = .ok object ∧ a = done object := by
  cases reply with
  | ok object => exact ⟨object, rfl, (Except.ok.inj h).symm⟩
  | error fault =>
    cases fault with
    | conflict message =>
      cases h
      cases well
    | _ =>
      have failed := fault_of_ofFault (show Applied.ofFault attempt _ = .ok a from h)
      cases failed.symm.trans well

/-- Applying without faults: the StatefulSet is created, found as it should be, or patched. -/
theorem Application.cases_of_well {owner : Json} {tr : List Exchange} {a : Applied}
    (way : Application t owner tr (.ok a)) (well : a.fault? = none) :
    (a.outcome = "created" ∧ ∃ message reference reply, ownerReference owner = .ok reference ∧
      tr = [⟨.readSet t.ns t.name, .error (.notFound message)⟩,
        ⟨.createSet t.ns (t.body reference), .ok reply⟩]) ∨
    (a.outcome = "unchanged" ∧ ∃ live, tr = [⟨.readSet t.ns t.name, .ok live⟩]) ∨
    (a.outcome = "patched" ∧ ∃ live version reply, Pass.versionOf live = .ok version ∧
      tr = [⟨.readSet t.ns t.name, .ok live⟩,
        ⟨.patchSet t.ns t.name (Managed.guarded version (t.patchFields live)), .ok reply⟩]) := by
  generalize eq : (Except.ok a : Except Fault Applied) = applied at way
  cases way with
  | unread =>
    cases (fault_of_ofFault eq.symm).symm.trans well
  | unowned => cases eq
  | @creating message reference reply owned =>
    obtain ⟨object, rfl, rfl⟩ := ok_of_ofWrite eq.symm well
    exact Or.inl ⟨rfl, message, reference, object, owned, rfl⟩
  | @unchanged live same =>
    cases eq
    exact Or.inr (Or.inl ⟨rfl, live, rfl⟩)
  | unversioned => cases eq
  | @patching live version fields reply differ versioned =>
    obtain ⟨object, rfl, rfl⟩ := ok_of_ofWrite eq.symm well
    obtain ⟨_, rfl⟩ := patch?_eq_some_iff.mp differ
    exact Or.inr (Or.inr ⟨rfl, live, version, object, versioned, rfl⟩)

theorem outcome_of_metrics {applied : Except Fault Applied} {outcome : String}
    (h : appliedOutcomes (appliedMetrics applied) = [outcome]) :
    ∃ a, applied = .ok a ∧ a.outcome = outcome := by
  cases applied with
  | ok a => exact ⟨a, rfl, by simpa [appliedMetrics, appliedOutcomes] using h⟩
  | error fault => cases h

theorem well_of_outcome {a : Applied} (h : a.outcome ∈ ["created", "unchanged", "patched"]) :
    a.fault? = none := by
  cases a with
  | conflicted | failed => simp [Applied.outcome] at h
  | _ => rfl

theorem Context.Applies.unique {c after : Context} {outcomes others : List String}
    (h : c.Applies outcomes after) (h' : c.Applies others after) : outcomes = others := by
  obtain ⟨counted, grows, rfl⟩ := h
  obtain ⟨counted', grows', rfl⟩ := h'
  rw [List.append_cancel_left (grows.metrics.symm.trans grows'.metrics)]

theorem Referring.statuses {turns : List (Turn σ)} {before last : σ}
    (server : Referring answer set?) (run : Turns answer Eq before turns last)
    (statuses : ∀ turn ∈ turns, turn.exchange.request.IsStatus) (i : Identity) :
    set? last i = set? before i := by
  induction run with
  | done act => rw [act]
  | @turn s b last request rest act further ih =>
    obtain ⟨first, others⟩ := List.forall_mem_cons.mp statuses
    obtain ⟨_, _, _, rfl⟩ : request.IsStatus := first
    rw [ih others, server.unasked _ _ rfl, act]

section

variable [Redaction.VisitingOrder]

theorem clock_passAt (s : Settings δ) (ns name : Json) (c : Context) (state : σ) :
    (passAt answer s ns name state c).1.2.clock = c.clock := by
  have ends := Pass.ends_run answer (Pass.reconcile s ns name) c state
  rcases ends.asks_of_reconcile with ⟨_, _, _, _, none⟩ | ⟨_, _, _, _, _, _, _, _, _, _, counts⟩
  · exact none.clock
  · exact counts.clock

/-- A pass that counted an outcome has applied the topology of the resource that it read. -/
theorem application_of_applies {s : Settings δ} {ns name : Json} {c : Context} {state : σ}
    {outcome : String} (read : (answer (.readStorage ns name) state).1 = .ok resource)
    (accepted : Topology.ofResource resource = .ok t)
    (counted : c.Applies [outcome] (passAt answer s ns name state c).1.2) :
    ∃ a applying rest later, a.outcome = outcome ∧ Application t resource applying (.ok a) ∧
      later.map Turn.exchange = applying ++ rest ∧ (∀ e ∈ rest, e.request.IsStatus) ∧
      Turns answer Eq (answer (.readStorage ns name) state).2 later
        (passAt answer s ns name state c).2.1 := by
  have ends := Pass.ends_run answer (Pass.reconcile s ns name) c state
  have run := Calls.turns_of_run answer ((Pass.reconcile s ns name).start c) state
  rcases ends.asks_of_reconcile with ⟨_, _, _, _, none⟩ |
    ⟨other, t', applying, applied, rest, eq, accepted', way, statuses, _, counts⟩
  · cases counted.unique none
  obtain ⟨_, later, rfl, delivered, _, eq', further⟩ := run.uncons eq
  cases read.symm.trans delivered
  cases accepted.symm.trans accepted'
  obtain ⟨a, rfl, same⟩ := outcome_of_metrics (counts.unique counted)
  exact ⟨a, applying, rest, later, same, way, eq', statuses, further⟩

def ControlledBy (uid object : Json) : Prop :=
  ∃ reference, controllerOf object = .ok (some reference) ∧ reference.get? "uid" = some uid

omit [Redaction.VisitingOrder] in
/-- What applying without faults makes of the controller of the StatefulSet. -/
theorem Application.controller {applying rest : List Exchange} {a : Applied} {before last : σ}
    {later : List (Turn σ)} (server : Referring answer set?)
    (way : Application t resource applying (.ok a)) (well : a.fault? = none)
    (group : OfGroup resource) (run : Turns answer Eq before later last)
    (eq : later.map Turn.exchange = applying ++ rest)
    (statuses : ∀ e ∈ rest, e.request.IsStatus) :
    (a.outcome = "created" ∧ ∃ stored, set? last ⟨t.ns, t.name⟩ = some stored ∧
      ControlledBy ((resource.path? ["metadata", "uid"]).getD .null) stored) ∨
    (a.outcome ≠ "created" ∧ ∃ live stored, set? before ⟨t.ns, t.name⟩ = some live ∧
      set? last ⟨t.ns, t.name⟩ = some stored ∧ controllerOf stored = controllerOf live) := by
  have unread : ∀ b, set? (answer (.readSet t.ns t.name) b).2 ⟨t.ns, t.name⟩ =
      set? b ⟨t.ns, t.name⟩ := fun b => server.unasked _ _ rfl _
  rcases way.cases_of_well well with ⟨outcome, message, reference, reply, referred, rfl⟩ |
    ⟨outcome, live, rfl⟩ | ⟨outcome, live, version, reply, versioned, rfl⟩
  · obtain ⟨_, later, _, _, rfl, eq, run⟩ := run.uncons eq
    obtain ⟨b, later, _, written, rfl, eq, run⟩ := run.uncons eq
    obtain ⟨stored, there, keeps⟩ := server.create t.ns (t.body reference) _ b reply rfl written
    refine Or.inl ⟨outcome, stored, ?_, reference, keeps.controllerOf_body group referred, ?_⟩
    · rw [server.statuses run (statuses_of_map eq statuses)]
      exact there
    · rw [ownerReference_eq referred]
      rfl
  · obtain ⟨b, later, rfl, found, rfl, eq, run⟩ := run.uncons eq
    have there := server.readSet _ _ _ _ found
    refine Or.inr ⟨by simp [outcome], live, live, there, ?_, rfl⟩
    rw [server.statuses run (statuses_of_map eq statuses), unread]
    exact there
  · obtain ⟨b, later, rfl, found, rfl, eq, run⟩ := run.uncons eq
    obtain ⟨b', later, rfl, written, rfl, eq, run⟩ := run.uncons eq
    have there := server.readSet _ _ _ _ found
    obtain ⟨present, stored, there', after, keeps⟩ := server.patch _ _ _ _ _ written
    rw [unread, there] at there'
    cases there'
    obtain ⟨_, readable⟩ := metadataIn_of_versionOf versioned
    refine Or.inr ⟨by simp [outcome], live, stored, there, ?_,
      keeps.controllerOf_merge (modest_guarded t live version) readable⟩
    rw [server.statuses run (statuses_of_map eq statuses)]
    exact after

/-- A pass that creates the StatefulSet makes the resource that it read the controller; a pass that
finds or patches it leaves the controller as it was, whoever that is. -/
theorem controller_after_pass {s : Settings δ} {ns name : Json} {c : Context} {state : σ}
    (server : Referring answer set?)
    (read : (answer (.readStorage ns name) state).1 = .ok resource) (group : OfGroup resource)
    (accepted : Topology.ofResource resource = .ok t) :
    (c.Applies ["created"] (passAt answer s ns name state c).1.2 →
      ∃ stored, set? (passAt answer s ns name state c).2.1 ⟨t.ns, t.name⟩ = some stored ∧
        ControlledBy ((resource.path? ["metadata", "uid"]).getD .null) stored) ∧
    (c.Applies ["unchanged"] (passAt answer s ns name state c).1.2 ∨
        c.Applies ["patched"] (passAt answer s ns name state c).1.2 →
      ∃ live stored, set? state ⟨t.ns, t.name⟩ = some live ∧
        set? (passAt answer s ns name state c).2.1 ⟨t.ns, t.name⟩ = some stored ∧
        controllerOf stored = controllerOf live) := by
  have unread : ∀ i, set? (answer (.readStorage ns name) state).2 i = set? state i :=
    server.unasked _ _ rfl
  constructor
  · intro counted
    obtain ⟨a, applying, rest, later, outcome, way, eq, statuses, run⟩ :=
      application_of_applies read accepted counted
    have well : a.fault? = none := well_of_outcome (by simp [outcome])
    rcases way.controller server well group run eq statuses with ⟨_, created⟩ | ⟨no, _⟩
    · exact created
    · exact absurd outcome no
  · intro counted
    have counted : ∃ outcome ∈ ["unchanged", "patched"],
        c.Applies [outcome] (passAt answer s ns name state c).1.2 := by
      simpa using counted
    obtain ⟨_, known, counted⟩ := counted
    obtain ⟨a, applying, rest, later, rfl, way, eq, statuses, run⟩ :=
      application_of_applies read accepted counted
    have well := well_of_outcome (List.mem_cons_of_mem "created" known)
    rcases way.controller server well group run eq statuses with ⟨no, _⟩ | ⟨_, kept⟩
    · simp [no] at known
    · simpa only [unread] using kept

end

open Redaction.TokenFirst in
theorem controller_after_pass_created :
    let s : Settings Nat := ⟨8080, 30, 4, 1, 60, 2, 5, 300, ""⟩
    let id : Identity := ⟨"swift", "storage"⟩
    let resource : Json := .obj
      [("metadata", .obj [("namespace", "swift"), ("name", "storage"), ("uid", "u-1")])]
    let store : Store := ⟨[(id, resource)], [], 0⟩
    let c : Context := ⟨0, {}, .off, [], []⟩
    c.Applies ["created"] (passAt Store.answer s "swift" "storage" store c).1.2 ∧
      ∃ stored, (passAt Store.answer s "swift" "storage" store c).2.1.set? id = some stored ∧
        ControlledBy "u-1" stored := by
  intro s id resource store c
  have read : (Store.answer (.readStorage "swift" "storage") store).1 = .ok resource := rfl
  have group : OfGroup resource := by
    refine ⟨?_, ?_⟩ <;> rintro _ ⟨⟩
  have counted : c.Applies ["created"] (passAt Store.answer s "swift" "storage" store c).1.2 := by
    refine ⟨[.pass "SwiftStorage" "started", .applied "created",
      .readiness "SwiftStorage" "not_ready", .passDuration "SwiftStorage",
      .pass "SwiftStorage" "success"], ⟨clock_passAt s _ _ c store, ?_⟩, rfl⟩
    decide +kernel
  obtain ⟨t, accepted, named⟩ : ∃ t, Topology.ofResource resource = .ok t ∧
      (⟨t.ns, t.name⟩ : Identity) = id := ⟨_, rfl, rfl⟩
  have created := (controller_after_pass Store.referring read group accepted).1 counted
  rw [named] at created
  exact ⟨counted, created⟩

open Redaction.TokenFirst in
/-- A StatefulSet of somebody else is patched, and nobody controls it afterwards. -/
theorem patched_without_controller :
    let s : Settings Nat := ⟨8080, 30, 4, 1, 60, 2, 5, 300, ""⟩
    let id : Identity := ⟨"swift", "storage"⟩
    let resource : Json := .obj
      [("metadata", .obj [("namespace", "swift"), ("name", "storage"), ("uid", "u-1")])]
    let live : Json := .obj
      [("metadata", .obj
         [("namespace", "swift"), ("name", "storage"), ("resourceVersion", "1")]),
       ("spec", .obj [])]
    let store : Store := ⟨[(id, resource)], [(id, live)], 1⟩
    let c : Context := ⟨0, {}, .off, [], []⟩
    c.Applies ["patched"] (passAt Store.answer s "swift" "storage" store c).1.2 ∧
      ∃ stored, (passAt Store.answer s "swift" "storage" store c).2.1.set? id = some stored ∧
        controllerOf stored = .ok none ∧ ¬ ControlledBy "u-1" stored := by
  intro s id resource live store c
  have counted : c.Applies ["patched"] (passAt Store.answer s "swift" "storage" store c).1.2 := by
    refine ⟨[.pass "SwiftStorage" "started", .drift "SwiftStorage" "StatefulSetImmutable",
      .drift "SwiftStorage" "StatefulSet", .applied "patched",
      .readiness "SwiftStorage" "not_ready", .passDuration "SwiftStorage",
      .pass "SwiftStorage" "success"], ⟨clock_passAt s _ _ c store, ?_⟩, rfl⟩
    decide +kernel
  have alone : ((passAt Store.answer s "swift" "storage" store c).2.1.set? id).bind
      (fun stored => (controllerOf stored).toOption) = some none := by decide +kernel
  obtain ⟨stored, there, found⟩ := Option.bind_eq_some_iff.mp alone
  have none : controllerOf stored = .ok none := by
    cases eq : controllerOf stored with
    | ok reference? =>
      rw [eq] at found
      exact congrArg Except.ok (Option.some.inj found)
    | error fault =>
      rw [eq] at found
      cases found
  refine ⟨counted, stored, there, none, ?_⟩
  rintro ⟨reference, some, _⟩
  cases none.symm.trans some

end StorageController
