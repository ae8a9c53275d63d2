import StorageController.Proofs.Cluster.Versioned
import StorageController.Proofs.Pass.Asks
import StorageController.Proofs.StatefulSet.Patch

namespace StorageController

open Json

variable {σ : Type} {t : Topology}

/-- A StatefulSet as it is stored after it was written: it agrees in the managed fields with the
written one, filled up with defaults. -/
structure Settles (written stored : Json) : Prop where
  shaped : SetShaped stored
  managed : ∃ filled, written.isSubset filled = true ∧
    ∀ path ∈ Managed.paths, stored.path? path = filled.path? path

/-- The metadata of a resource that a write of its status leaves alone. -/
def declaredKeys : List String :=
  ["name", "namespace", "uid", "generation", "deletionTimestamp"]

/-- A storage resource as it is stored after a patch of its status. -/
structure StatusWritten (object status stored : Json) : Prop where
  status : stored.get? "status" = some (((object.get? "status").getD .null).merge status)
  spec : stored.get? "spec" = object.get? "spec"
  metadata : ∀ fields, object.get? "metadata" = some (.obj fields) →
    ∃ others, stored.get? "metadata" = some (.obj others) ∧
      ∀ key ∈ declaredKeys, others.lookup key = fields.lookup key

/-- A cluster that answers every request about what is there, with its storage resources and its
StatefulSets given by `storage?` and `set?`. -/
structure Settling (answer : Request → σ → Reply × σ) (storage? set? : σ → Identity → Option Json) :
    Prop where
  readStorage : ∀ ns name s object, storage? s ⟨ns, name⟩ = some object →
    answer (.readStorage ns name) s = (.ok object, s)
  readSet : ∀ ns name s live, set? s ⟨ns, name⟩ = some live →
    answer (.readSet ns name) s = (.ok live, s)
  readAbsent : ∀ ns name s, set? s ⟨ns, name⟩ = none →
    ∃ message, answer (.readSet ns name) s = (.error (.notFound message), s)
  create : ∀ ns body id s, (Request.createSet ns body).written? = some id → set? s id = none →
    body.wellFormed = true → SetShaped body →
    ∃ reply stored s', answer (.createSet ns body) s = (.ok reply, s') ∧ SetShaped reply ∧
      set? s' id = some stored ∧ Settles body stored ∧ ∀ i, storage? s' i = storage? s i
  patch : ∀ ns name patch live s, set? s ⟨ns, name⟩ = some live →
    (∀ version, patch.path? ["metadata", "resourceVersion"] = some version →
      live.path? ["metadata", "resourceVersion"] = some version) →
    live.wellFormed = true → patch.wellFormed = true → SetShaped (live.merge patch) →
    ∃ reply stored s', answer (.patchSet ns name patch) s = (.ok reply, s') ∧ SetShaped reply ∧
      set? s' ⟨ns, name⟩ = some stored ∧ Settles (live.merge patch) stored ∧
      ∀ i, storage? s' i = storage? s i
  status : ∀ ns name status s object, storage? s ⟨ns, name⟩ = some object →
    ∃ reply stored s', answer (.patchStatus ns name status) s = (.ok reply, s') ∧
      StatusWritten object status stored ∧
      (∀ i, storage? s' i = if i = ⟨ns, name⟩ then some stored else storage? s i) ∧
      ∀ i, set? s' i = set? s i
  statusAbsent : ∀ ns name status s, storage? s ⟨ns, name⟩ = none →
    ∃ message, answer (.patchStatus ns name status) s = (.error (.notFound message), s)

namespace Settling

variable {answer : Request → σ → Reply × σ} {storage? set? : σ → Identity → Option Json}
  {ns name : Json} {s : σ}

theorem readSet_state (server : Settling answer storage? set?) (ns name : Json) (s : σ) :
    (answer (.readSet ns name) s).2 = s := by
  cases present : set? s ⟨ns, name⟩ with
  | none =>
    obtain ⟨message, read⟩ := server.readAbsent ns name s present
    rw [read]
  | some live => rw [server.readSet ns name s live present]

theorem set?_of_readSet {live : Json} (server : Settling answer storage? set?)
    (h : (answer (.readSet ns name) s).1 = .ok live) : set? s ⟨ns, name⟩ = some live := by
  cases present : set? s ⟨ns, name⟩ with
  | none =>
    obtain ⟨message, read⟩ := server.readAbsent ns name s present
    rw [read] at h
    cases h
  | some other =>
    rw [server.readSet ns name s other present] at h
    cases h
    rfl

theorem set?_of_readSet_error {fault : Fault} (server : Settling answer storage? set?)
    (h : (answer (.readSet ns name) s).1 = .error fault) :
    set? s ⟨ns, name⟩ = none ∧ ∃ message, fault = .notFound message := by
  cases present : set? s ⟨ns, name⟩ with
  | none =>
    obtain ⟨message, read⟩ := server.readAbsent ns name s present
    rw [read] at h
    cases h
    exact ⟨rfl, message, rfl⟩
  | some other =>
    rw [server.readSet ns name s other present] at h
    cases h

theorem status_shaped {r : Request} (server : Settling answer storage? set?) (h : r.IsStatus)
    (s : σ) : Exchange.Shaped ⟨r, (answer r s).1⟩ := by
  obtain ⟨ns, name, status, rfl⟩ := h
  cases present : storage? s ⟨ns, name⟩ with
  | none =>
    obtain ⟨message, refused⟩ := server.statusAbsent ns name status s present
    rw [refused]
    rfl
  | some object =>
    obtain ⟨reply, stored, s', written, _⟩ := server.status ns name status s object present
    rw [written]
    trivial

end Settling

/-- The live object holds the managed fields of the topology. -/
def InSync (t : Topology) (live : Json) : Prop :=
  (Managed.view t.manifest).isSubset live = true

theorem inSync_iff {live : Json} : InSync t live ↔ isSubset (.obj t.managedFields) live = true := by
  rw [InSync, view_manifest]

/-- What held the managed fields when it was written holds them when it is stored. -/
theorem Settles.inSync {written stored : Json} (h : Settles written stored)
    (held : InSync t written) : InSync t stored := by
  obtain ⟨filled, sub, agree⟩ := h.managed
  rw [inSync_iff] at held ⊢
  refine isSubset_managedFields fun path hp v hv => ?_
  obtain ⟨w, hw, hvw⟩ := path?_of_isSubset (isSubset_trans held sub) hv
  exact ⟨w, (agree path hp).trans hw, hvw⟩

theorem inSync_body (t : Topology) (reference : Json) : InSync t (t.body reference) := by
  rw [inSync_iff]
  refine isSubset_managedFields fun path hp v hv => ?_
  have wf := path?_wellFormed (managedFields_wellFormed t) hv
  refine ⟨v, ?_, isSubset_refl wf⟩
  simp only [Managed.paths, List.mem_cons, List.not_mem_nil, or_false] at hp
  rcases hp with rfl | rfl | rfl <;> exact hv

theorem setShaped_body (t : Topology) (reference : Json) : SetShaped (t.body reference) := by
  refine ⟨⟨_, rfl⟩, ?_⟩
  intro status h
  cases h

theorem setShaped_merge_guarded {version : Json} (h : SetShaped (.obj live)) :
    SetShaped ((Json.obj live).merge
      (Managed.guarded version (t.patchFields (.obj live)))) := by
  obtain ⟨metadata, hm⟩ := h.metadata
  refine ⟨metadata_merge_guarded hm, ?_⟩
  have distinct := ((wellFormed_obj _).mp (managedFields_wellFormed t)).1
  have unnamed : (t.patchFields (.obj live)).lookup "status" = none := by
    rw [Topology.patchFields, lookup_diffFields _ _ distinct]
    rfl
  rw [get?_merge_guarded (by decide), get?_merge _ (distinct_patchFields t _), unnamed]
  exact h.status

theorem current_guarded (hm : live.lookup "metadata" = some (.obj metadata)) :
    ∀ version, (Managed.guarded ((metadata.lookup "resourceVersion").getD .null)
        (t.patchFields (.obj live))).path? ["metadata", "resourceVersion"] = some version →
      (Json.obj live).path? ["metadata", "resourceVersion"] = some version := by
  intro version h
  obtain ⟨truthy, rfl⟩ := path?_version_guarded hm h
  rw [path?_metadata "resourceVersion" hm]
  exact lookup_of_truthy truthy

theorem patch?_of_inSync {live : Fields} (h : InSync t (.obj live)) :
    Managed.patch? t.manifest (.obj live) = none :=
  patch?_eq_none_iff.mpr (inSync_iff.mp h)

end StorageController
