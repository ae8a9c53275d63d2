import StorageController.Proofs.Cluster.Turns
import StorageController.Proofs.Pass.Apply
import StorageController.Proofs.StatefulSet.Patch

namespace StorageController

open Json

variable {σ : Type}

/-- A patch is only sent for a live object with a version of its own or none, and it is the patch of
that object. -/
theorem Application.patch_eq {t : Topology} {owner ns name patch : Json} {tr : List Exchange}
    {outcome : Except Fault Applied} (way : Application t owner tr outcome)
    (sent : .patchSet ns name patch ∈ tr.map Exchange.request) :
    ∃ live version fields rest, tr = ⟨.readSet t.ns t.name, .ok live⟩ :: rest ∧
      Managed.patch? t.manifest live = some fields ∧ Pass.versionOf live = .ok version ∧
      patch = Managed.guarded version fields := by
  cases way with
  | @patching live version fields reply differ versioned =>
    simp only [List.map_cons, List.map_nil, List.mem_cons, List.not_mem_nil, or_false,
      reduceCtorEq, false_or, Request.patchSet.injEq] at sent
    exact ⟨live, version, fields, _, rfl, differ, versioned, sent.2.2⟩
  | _ => simp at sent

section

variable [Redaction.VisitingOrder]

/-- Whatever the server answers, a patch that is sent leaves everything but the managed fields of the
live object alone, as long as its version holds no null. -/
theorem apply_framed (answer : Request → σ → Reply × σ) (state : σ) (t : Topology) (owner : Json)
    (c : Context) {live ns name patch : Json} {metadata spec : Fields}
    (read : (answer (.readSet t.ns t.name) state).1 = .ok live) (wf : live.wellFormed = true)
    (hm : live.get? "metadata" = some (.obj metadata)) (hs : live.get? "spec" = some (.obj spec))
    (free : ∀ version, metadata.lookup "resourceVersion" = some version →
      version.truthy = true → version.nullFree = true)
    (sent : .patchSet ns name patch ∈ (((Pass.apply t owner).start c).run answer state).2.2) :
    Framed t live patch := by
  have ends := Pass.ends_run answer (Pass.apply t owner) c state
  obtain ⟨way, _⟩ := ends.of_apply
  rw [← Calls.requests_of_run] at sent
  obtain ⟨found, version, fields, rest, eq, differ, versioned, rfl⟩ := way.patch_eq sent
  obtain ⟨_, _, rfl, head, _⟩ :=
    (Calls.turns_of_run answer ((Pass.apply t owner).start c) state).uncons eq
  cases head.symm.trans read
  obtain ⟨others, rfl, mem⟩ := eq_obj_of_get? hm
  obtain ⟨_, rfl⟩ := patch?_eq_some_iff.mp differ
  cases (versionOf_obj mem).symm.trans versioned
  exact framed_guarded wf mem hs fun truthy => free _ (lookup_of_truthy truthy) truthy

end

open Redaction.TokenFirst in
theorem apply_framed_relabelled :
    let resource : Json := .obj [("metadata", .obj [("name", "storage"), ("namespace", "swift")])]
    let live : Json := .obj
      [("metadata", .obj [("resourceVersion", "7"), ("labels", .obj [("team", "storage")])]),
       ("spec", .obj [("serviceName", "storage")])]
    let answer (_ : Request) (state : Unit) : Reply × Unit := (.ok live, state)
    ∃ t patch, Topology.ofResource resource = .ok t ∧ Framed t live patch ∧
      .patchSet "swift" "storage" patch ∈
        (((Pass.apply t resource).start ⟨0, {}, .off, [], []⟩).run answer ()).2.2 := by
  intro resource live answer
  refine ⟨_, _, rfl, ?_, List.mem_cons_of_mem _ List.mem_cons_self⟩
  refine @apply_framed _ _ answer () _ resource ⟨0, {}, .off, [], []⟩ live "swift" "storage" _ _ _
    rfl rfl rfl rfl ?_ (List.mem_cons_of_mem _ List.mem_cons_self)
  intro version h _
  cases h
  rfl

open Redaction.TokenFirst in
/-- A version that holds a null is sent as it is. -/
theorem apply_sends_null_version :
    let resource : Json := .obj [("metadata", .obj [("name", "storage"), ("namespace", "swift")])]
    let live : Json := .obj
      [("metadata", .obj [("resourceVersion", .arr [.null])]), ("spec", .obj [])]
    let answer (_ : Request) (state : Unit) : Reply × Unit := (.ok live, state)
    ∃ t patch, Topology.ofResource resource = .ok t ∧ patch.nullFree = false ∧
      .patchSet "swift" "storage" patch ∈
        (((Pass.apply t resource).start ⟨0, {}, .off, [], []⟩).run answer ()).2.2 := by
  intro resource live answer
  refine ⟨_, Managed.guarded (.arr [.null]) _, rfl, ?_, List.mem_cons_of_mem _ List.mem_cons_self⟩
  rfl

end StorageController
