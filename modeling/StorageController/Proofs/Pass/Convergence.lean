import StorageController.Proofs.Pass.Landing

namespace StorageController

open Json

variable {δ σ : Type} {answer : Request → σ → Reply × σ}
  {storage? set? : σ → Identity → Option Json} {t : Topology} {resource : Json}

section

variable [Redaction.VisitingOrder]

/-- One pass at a cluster that settles and that nobody else uses: it is done, the StatefulSet is in
sync after it, and if it was so before, then it is not written. -/
theorem settled_of_reconcile {s : Settings δ} {ns name : Json} {c after : Context} {state last : σ}
    {turns : List (Turn σ)} {outcome : Except Fault (Directive δ)}
    (server : Settling answer storage? set?) (run : Turns answer Eq state turns last)
    (ends : (Pass.reconcile s ns name).Ends c (turns.map Turn.exchange) outcome after)
    (stored : storage? state ⟨ns, name⟩ = some resource) (owned : StorageShaped resource)
    (staying : deleting resource = false) (accepted : Topology.ofResource resource = .ok t)
    (applicable : Applicable set? t resource state) :
    outcome = .ok .done ∧ Declared storage? ns name t last ∧ Synced set? t last ∧
      (Synced set? t state → c.Applies ["unchanged"] after ∧
        ∀ turn ∈ turns, turn.exchange.request.written? = none) := by
  have beside : ∀ s s', s = s' → Beside storage? set? ns name t s s' := by
    rintro s _ rfl
    exact .refl s
  have ready : Ready storage? set? ns name t state :=
    ⟨resource, stored, owned, staying, accepted, applicable⟩
  obtain ⟨done, ready', synced, orderly, _, unchanged⟩ :=
    orderly_of_reconcile server run beside ends ready
  refine ⟨done, ready'.declared, synced, ?_⟩
  exact fun before => ⟨unchanged before, unwritten_of_orderly run beside orderly before⟩

def passAt (answer : Request → σ → Reply × σ) (s : Settings δ) (ns name : Json) (state : σ)
    (c : Context) : (Except Fault (Directive δ) × Context) × σ × List Request :=
  ((Pass.reconcile s ns name).start c).run answer state

def stateAfter (answer : Request → σ → Reply × σ) (s : Settings δ) (ns name : Json) (state : σ)
    (passes : List Context) : σ :=
  passes.foldl (fun state c => (passAt answer s ns name state c).2.1) state

theorem settled_passAt {s : Settings δ} {ns name : Json} {state : σ}
    (server : Settling answer storage? set?) (declared : Declared storage? ns name t state)
    (synced : Synced set? t state) (c : Context) :
    (passAt answer s ns name state c).1.1 = .ok .done ∧
      c.Applies ["unchanged"] (passAt answer s ns name state c).1.2 ∧
      (∀ request ∈ (passAt answer s ns name state c).2.2, request.written? = none) ∧
      Declared storage? ns name t (passAt answer s ns name state c).2.1 ∧
      Synced set? t (passAt answer s ns name state c).2.1 := by
  obtain ⟨resource, stored, owned, staying, accepted⟩ := declared
  obtain ⟨done, declared, after, unchanged⟩ := settled_of_reconcile server
    (Calls.turns_of_run answer _ state) (Pass.ends_run answer (Pass.reconcile s ns name) c state)
    stored owned staying accepted (applicable_of_synced synced)
  obtain ⟨applies, unwritten⟩ := unchanged synced
  refine ⟨done, applies, ?_, declared, after⟩
  intro request hr
  rw [passAt, ← Calls.requests_of_run, List.map_map] at hr
  obtain ⟨turn, ht, rfl⟩ := List.mem_map.mp hr
  exact unwritten turn ht

theorem settled_stateAfter {s : Settings δ} {ns name : Json} {state : σ}
    (server : Settling answer storage? set?) (declared : Declared storage? ns name t state)
    (synced : Synced set? t state) (passes : List Context) :
    Declared storage? ns name t (stateAfter answer s ns name state passes) ∧
      Synced set? t (stateAfter answer s ns name state passes) := by
  -- Neither half of the invariant is preserved alone: a pass has to find both.
  induction passes generalizing state with
  | nil => exact ⟨declared, synced⟩
  | cons c rest ih =>
    obtain ⟨_, _, _, declared', synced'⟩ := settled_passAt (s := s) server declared synced c
    exact ih declared' synced'

/-- A first pass is done and brings the StatefulSet in sync, and each of the passes after it finds it
unchanged, is done and writes no StatefulSet. -/
theorem reconcile_converges {s : Settings δ} {ns name : Json} {state : σ} {first : Context}
    (server : Settling answer storage? set?) (stored : storage? state ⟨ns, name⟩ = some resource)
    (owned : StorageShaped resource) (wf : resource.wellFormed = true)
    (staying : deleting resource = false) (accepted : Topology.ofResource resource = .ok t)
    (present : ∀ live, set? state ⟨t.ns, t.name⟩ = some live →
      SetShaped live ∧ live.wellFormed = true) :
    (passAt answer s ns name state first).1.1 = .ok .done ∧
    ∀ (further : List Context) (next : Context),
      let reached := stateAfter answer s ns name state (first :: further)
      (∃ live, set? reached ⟨t.ns, t.name⟩ = some live ∧
        (Managed.view t.manifest).isSubset live = true) ∧
      (passAt answer s ns name reached next).1.1 = .ok .done ∧
      next.Applies ["unchanged"] (passAt answer s ns name reached next).1.2 ∧
      ∀ request ∈ (passAt answer s ns name reached next).2.2, request.written? = none := by
  have applicable : Applicable set? t resource state := by
    refine ⟨fun _ => wf, ?_⟩
    intro live there
    obtain ⟨shaped, wf⟩ := present live there
    exact ⟨shaped, Or.inr wf⟩
  obtain ⟨done, declared, synced, _⟩ := settled_of_reconcile server
    (Calls.turns_of_run answer _ state)
    (Pass.ends_run answer (Pass.reconcile s ns name) first state) stored owned staying accepted
    applicable
  refine ⟨done, ?_⟩
  intro further next
  obtain ⟨declared, synced⟩ := settled_stateAfter (s := s) server declared synced further
  obtain ⟨done, applies, unwritten, _⟩ := settled_passAt (s := s) server declared synced next
  obtain ⟨live, there, _, sync⟩ := synced
  exact ⟨⟨live, there, sync⟩, done, applies, unwritten⟩

end

open Redaction.TokenFirst in
theorem reconcile_converges_drifted :
    let s : Settings Nat := ⟨8080, 30, 4, 1, 60, 2, 5, 300, ""⟩
    let id : Identity := ⟨"swift", "storage"⟩
    let resource : Json := .obj [("metadata", .obj [("namespace", "swift"), ("name", "storage")])]
    let live : Json := .obj
      [("metadata", .obj [("resourceVersion", "1")]), ("spec", .obj [("replicas", .int 9)])]
    let store : Store := ⟨[(id, resource)], [(id, live)], 1⟩
    let first : Context := ⟨0, {}, .off, [], []⟩
    ∃ t, Topology.ofResource resource = .ok t ∧
      (passAt Store.answer s "swift" "storage" store first).1.1 = .ok .done ∧
      ∀ (further : List Context) (next : Context),
        let reached := stateAfter Store.answer s "swift" "storage" store (first :: further)
        (∃ live, reached.set? ⟨t.ns, t.name⟩ = some live ∧
          (Managed.view t.manifest).isSubset live = true) ∧
        (passAt Store.answer s "swift" "storage" reached next).1.1 = .ok .done ∧
        next.Applies ["unchanged"] (passAt Store.answer s "swift" "storage" reached next).1.2 ∧
        ∀ request ∈ (passAt Store.answer s "swift" "storage" reached next).2.2,
          request.written? = none := by
  intro s id resource live store first
  have storage : StorageShaped resource := by
    refine ⟨⟨_, rfl⟩, ?_⟩
    intro status h
    cases h
  have shaped : SetShaped live := by
    refine ⟨⟨_, rfl⟩, ?_⟩
    intro status h
    cases h
  refine ⟨_, rfl, reconcile_converges Store.settling rfl storage rfl rfl rfl ?_⟩
  intro other there
  cases there
  exact ⟨shaped, rfl⟩

open Redaction.TokenFirst in
/-- A status that is a text stops every pass before the StatefulSet is created. -/
theorem reconcile_stops_at_status :
    let s : Settings Nat := ⟨8080, 30, 4, 1, 60, 2, 5, 300, ""⟩
    let resource : Json := .obj
      [("metadata", .obj [("namespace", "swift"), ("name", "storage")]), ("status", "ready")]
    let store : Store := ⟨[(⟨"swift", "storage"⟩, resource)], [], 0⟩
    let pass := passAt Store.answer s "swift" "storage" store ⟨0, {}, .off, [], []⟩
    ∃ t, Topology.ofResource resource = .ok t ∧ deleting resource = false ∧
      pass.1.1.isOk = false ∧ pass.2.1.set? ⟨t.ns, t.name⟩ = none :=
  ⟨_, rfl, rfl, rfl, rfl⟩

end StorageController
