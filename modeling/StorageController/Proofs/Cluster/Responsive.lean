import StorageController.Proofs.Cluster.Store

namespace StorageController

open Json Cluster

variable {σ : Type}

def HasMetadata (live : Json) : Prop :=
  ∃ fields, live.get? "metadata" = some (.obj fields)

/-- A cluster whose replies tell what is there. A patch of a StatefulSet that does not name its status
leaves the status alone. -/
structure Responsive (answer : Request → σ → Reply × σ)
    (storage? set? : σ → Identity → Option Json) : Prop where
  readStorage : ∀ ns name s object, (answer (.readStorage ns name) s).1 = .ok object →
    storage? s ⟨ns, name⟩ = some object
  readStorage_state : ∀ ns name s, (answer (.readStorage ns name) s).2 = s
  readSet : ∀ ns name s live, (answer (.readSet ns name) s).1 = .ok live →
    set? s ⟨ns, name⟩ = some live
  readAbsent : ∀ ns name s message, (answer (.readSet ns name) s).1 = .error (.notFound message) →
    set? s ⟨ns, name⟩ = none
  readSet_state : ∀ ns name s, (answer (.readSet ns name) s).2 = s
  create : ∀ ns body id s reply, (Request.createSet ns body).written? = some id →
    (answer (.createSet ns body) s).1 = .ok reply → HasMetadata reply ∧
      set? (answer (.createSet ns body) s).2 id = some reply ∧
      ∀ i, storage? (answer (.createSet ns body) s).2 i = storage? s i
  patch : ∀ ns name patch live s reply, set? s ⟨ns, name⟩ = some live →
    (answer (.patchSet ns name (.obj patch)) s).1 = .ok reply → HasMetadata reply ∧
      set? (answer (.patchSet ns name (.obj patch)) s).2 ⟨ns, name⟩ = some reply ∧
      (patch.lookup "status" = none → reply.get? "status" = live.get? "status") ∧
      ∀ i, storage? (answer (.patchSet ns name (.obj patch)) s).2 i = storage? s i
  status : ∀ ns name status s reply, (answer (.patchStatus ns name status) s).1 = .ok reply →
    ∃ object stored, storage? s ⟨ns, name⟩ = some object ∧ StatusWritten object status stored ∧
      storage? (answer (.patchStatus ns name status) s).2 ⟨ns, name⟩ = some stored ∧
      ∀ i, set? (answer (.patchStatus ns name status) s).2 i = set? s i

namespace Store

variable {s : Store}

theorem hasMetadata_stamped (version : Nat) (object : Json) :
    HasMetadata (stamped version object) :=
  get?_metadata_setPath _ _ _

theorem status_stamped_fillSet (version : Nat) (object : Json) :
    (stamped version (fillSet object)).get? "status" = object.get? "status" := by
  rw [get?_stamped _ _ (by decide), get?_fillSet, if_neg (by decide)]

theorem responsive : Responsive answer storage? set? where
  readStorage ns name s object h := ok_of_readStorage h
  readStorage_state ns name s := rfl
  readSet ns name s live h := ok_of_readSet h
  readAbsent := by
    intro ns name s message h
    cases present : s.set? ⟨ns, name⟩ with
    | none => rfl
    | some live => cases (congrArg Prod.fst (settling.readSet ns name s live present)).symm.trans h
  readSet_state ns name s := rfl
  create := by
    intro ns body id s reply written h
    cases present : s.set? id with
    | none =>
      rw [answer_create written present] at h ⊢
      cases h
      refine ⟨hasMetadata_stamped _ _, ?_, fun _ => rfl⟩
      rw [set?_putSet, if_pos rfl]
    | some live =>
      rw [answer_taken written present] at h
      cases h
  patch := by
    intro ns name patch live s reply present h
    cases stale : isStale (.obj patch) live with
    | false =>
      rw [answer_patch present stale] at h ⊢
      cases h
      refine ⟨hasMetadata_stamped _ _, ?_, ?_, fun _ => rfl⟩
      · rw [set?_putSet, if_pos rfl]
      · intro unnamed
        rw [status_stamped_fillSet, get?_merge_of_absent unnamed]
    | true =>
      rw [answer_refused present stale] at h
      cases h
  status := by
    intro ns name status s reply h
    cases present : s.storage? ⟨ns, name⟩ with
    | none =>
      obtain ⟨message, refused⟩ := settling.statusAbsent ns name status s present
      rw [refused] at h
      cases h
    | some object =>
      rw [answer_status present]
      refine ⟨object, _, rfl, statusWritten_setPath object status, ?_, fun _ => rfl⟩
      rw [storage?_putStorage, if_pos rfl]

end Store

end StorageController
