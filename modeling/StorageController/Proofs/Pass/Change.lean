import StorageController.Proofs.Cluster.Turns
import StorageController.Proofs.Pass.Apply
import StorageController.Proofs.StatefulSet.Change

namespace StorageController

open Json

variable {σ : Type} {answer : Request → σ → Reply × σ} {state : σ} {old new : Topology}
  {owner live version : Json} {c : Context}

/-- The patch of a change, conditional on the version that was read. -/
def Topology.changePatch (old new : Topology) (version : Json) : Json :=
  .obj [("spec", .obj (old.specChange new)), ("metadata", .obj [("resourceVersion", version)])]

theorem patch?_of_same (name : new.name = old.name) (holds : old.manifest.isSubset live = true)
    (same : old.SamePods new) : Managed.patch? new.manifest live = none := by
  have nothing : new.patchFields live = [] := by
    rw [patchFields_of_change name holds, specChange_eq_nil_iff.mpr same]
    rfl
  cases patch : Managed.patch? new.manifest live with
  | none => rfl
  | some fields => exact absurd nothing (patch?_eq_some_iff.mp patch).1

theorem patch?_of_change (name : new.name = old.name) (holds : old.manifest.isSubset live = true)
    (differ : ¬ old.SamePods new) :
    Managed.patch? new.manifest live = some [("spec", .obj (old.specChange new))] := by
  have carries : new.patchFields live = [("spec", .obj (old.specChange new))] := by
    rw [patchFields_of_change name holds, nested, if_neg (mt specChange_eq_nil_iff.mp differ)]
  rw [patch?_eq_some_iff, carries]
  exact ⟨List.cons_ne_nil _ _, rfl⟩

theorem guarded_change (truthy : version.truthy = true) :
    Managed.guarded version [("spec", .obj (old.specChange new))] = old.changePatch new version := by
  rw [guarded_eq _ truthy]
  rfl

theorem versionOf_of_path (versioned : live.path? ["metadata", "resourceVersion"] = some version) :
    Pass.versionOf live = .ok version := by
  obtain ⟨inside, there, versioned⟩ := Option.bind_eq_some_iff.mp versioned
  obtain ⟨_, found, last⟩ := Option.bind_eq_some_iff.mp versioned
  cases last
  obtain ⟨metadata, rfl, listed⟩ := eq_obj_of_get? found
  obtain ⟨fields, rfl, mem⟩ := eq_obj_of_get? there
  rw [versionOf_obj mem, listed]
  rfl

/-- What follows when the live object was read. -/
theorem Application.of_live {t : Topology} {tr rest : List Exchange} {outcome : Except Fault Applied}
    (way : Application t owner tr outcome)
    (read : tr = ⟨.readSet t.ns t.name, .ok live⟩ :: rest) :
    (Managed.patch? t.manifest live = none → rest = [] ∧ outcome = .ok (.unchanged live)) ∧
    ∀ fields version, Managed.patch? t.manifest live = some fields →
      Pass.versionOf live = .ok version →
      ∃ reply, rest = [⟨.patchSet t.ns t.name (Managed.guarded version fields), reply⟩] ∧
        outcome = Applied.ofWrite (.patched (Managed.guarded version fields))
          (some (Managed.guarded version fields, live)) reply := by
  cases way with
  | unread => cases read
  | unowned => cases read
  | creating => cases read
  | unchanged same =>
    cases read
    refine ⟨fun _ => ⟨rfl, rfl⟩, fun fields version differ => ?_⟩
    cases same.symm.trans differ
  | unversioned differ versioned =>
    cases read
    refine ⟨fun same => ?_, fun fields version _ versioned' => ?_⟩
    · cases same.symm.trans differ
    · cases versioned.symm.trans versioned'
  | @patching _ version fields reply differ versioned =>
    cases read
    refine ⟨fun same => ?_, fun fields' version' differ' versioned' => ?_⟩
    · cases same.symm.trans differ
    · cases differ.symm.trans differ'
      cases versioned.symm.trans versioned'
      exact ⟨reply, rfl, rfl⟩

section

variable [Redaction.VisitingOrder]

/-- After a change of the topology, a live object that holds the StatefulSet from before is left alone
if the change does not reach the pods. Else it gets the patch of the change, and nothing else. An
empty version counts as none. -/
theorem apply_carries_change (name : new.name = old.name)
    (holds : old.manifest.isSubset live = true)
    (versioned : live.path? ["metadata", "resourceVersion"] = some version)
    (truthy : version.truthy = true)
    (read : (answer (.readSet new.ns new.name) state).1 = .ok live)
    (accepts : ∀ patch s, ∃ object, (answer (.patchSet new.ns new.name patch) s).1 = .ok object) :
    let run := ((Pass.apply new owner).start c).run answer state
    (old.SamePods new →
      run.1.1 = .ok (.unchanged live) ∧ run.2.2 = [.readSet new.ns new.name]) ∧
    (¬ old.SamePods new →
      ∃ patched, run.1.1 = .ok (.patched (old.changePatch new version) patched) ∧
        run.2.2 = [.readSet new.ns new.name,
          .patchSet new.ns new.name (old.changePatch new version)]) := by
  intro run
  obtain ⟨way, _⟩ := (Pass.ends_run answer (Pass.apply new owner) c state).of_apply
  have turns := Calls.turns_of_run answer ((Pass.apply new owner).start c) state
  rw [← Calls.requests_of_run]
  obtain ⟨reply, rest, eq⟩ := way.reads
  obtain ⟨_, later, rfl, first, _, eq', further⟩ := turns.uncons eq
  cases first.symm.trans read
  obtain ⟨same, differs⟩ := way.of_live eq
  rw [eq]
  constructor
  · intro alike
    obtain ⟨rfl, outcome⟩ := same (patch?_of_same name holds alike)
    exact ⟨outcome, rfl⟩
  · intro differ
    obtain ⟨reply, rfl, outcome⟩ :=
      differs _ _ (patch?_of_change name holds differ) (versionOf_of_path versioned)
    obtain ⟨before, _, _, second, _⟩ := further.uncons eq'
    obtain ⟨object, accepted⟩ := accepts _ before
    cases second.symm.trans accepted
    rw [guarded_change truthy] at outcome
    refine ⟨object, outcome, ?_⟩
    rw [guarded_change truthy]
    rfl

end

open Redaction.TokenFirst in
theorem apply_carries_change_upgraded :
    let old : Topology := ⟨"swift", "storage", "5", .int 1, 3, "account:1", "container:1",
      "object:1", "proxy:1", "memcached:1", "", "rings"⟩
    let moved := { old with generation := .int 2, storageClass := "fast" }
    let upgraded := { old with generation := .int 2, imageProxy := "proxy:2" }
    let live := Manifest.withMetadata old [("resourceVersion", "7"), ("uid", "9")]
    let answer (_ : Request) (state : Unit) : Reply × Unit := (.ok live, state)
    (((Pass.apply moved .null).start ⟨0, {}, .off, [], []⟩).run answer ()).1.1 =
        .ok (.unchanged live) ∧
      (((Pass.apply upgraded .null).start ⟨0, {}, .off, [], []⟩).run answer ()).2.2 =
        [.readSet "swift" "storage", .patchSet "swift" "storage" (.obj
          [("spec", .obj [("template", .obj [("spec", .obj
            [("containers", .arr (Role.services.map (Manifest.container · upgraded)))])])]),
           ("metadata", .obj [("resourceVersion", "7")])])] := by
  intro old moved upgraded live answer
  have holds : old.manifest.isSubset live = true := by
    decide +kernel
  have accepts : ∀ (patch : Json) (state : Unit),
      ∃ object, (answer (.patchSet "swift" "storage" patch) state).1 = .ok object :=
    fun _ _ => ⟨live, rfl⟩
  have same : old.SamePods moved := ⟨rfl, rfl, rfl⟩
  have differ : ¬ old.SamePods upgraded := fun same => absurd same.images (by decide)
  have patch : old.changePatch upgraded "7" = .obj
      [("spec", .obj [("template", .obj [("spec", .obj
        [("containers", .arr (Role.services.map (Manifest.container · upgraded)))])])]),
       ("metadata", .obj [("resourceVersion", "7")])] := by
    simp [Topology.changePatch, Topology.specChange, Topology.podChange, Topology.images, carried,
      nested, old, upgraded]
  have unchanged := (@apply_carries_change Unit answer () old moved .null live "7"
    ⟨0, {}, .off, [], []⟩ _ rfl holds rfl rfl rfl accepts).1 same
  obtain ⟨_, _, sent⟩ := (@apply_carries_change Unit answer () old upgraded .null live "7"
    ⟨0, {}, .off, [], []⟩ _ rfl holds rfl rfl rfl accepts).2 differ
  rw [patch] at sent
  exact ⟨unchanged.1, sent⟩

end StorageController
