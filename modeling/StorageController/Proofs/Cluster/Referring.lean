import StorageController.Proofs.Cluster.Responsive

namespace StorageController

open Json

variable {σ : Type}

/-- A StatefulSet is stored with the references with which it was written. -/
structure KeepsReferences (written stored : Json) : Prop where
  metadata : HasMetadata stored
  same : stored.path? ["metadata", "ownerReferences"] = written.path? ["metadata", "ownerReferences"]

/-- A cluster that stores the references of its StatefulSets as they are written, and changes no
StatefulSet unasked. -/
structure Referring (answer : Request → σ → Reply × σ) (set? : σ → Identity → Option Json) :
    Prop where
  readSet : ∀ ns name s live, (answer (.readSet ns name) s).1 = .ok live →
    set? s ⟨ns, name⟩ = some live
  create : ∀ ns body id s reply, (Request.createSet ns body).written? = some id →
    (answer (.createSet ns body) s).1 = .ok reply →
    ∃ stored, set? (answer (.createSet ns body) s).2 id = some stored ∧ KeepsReferences body stored
  patch : ∀ ns name patch s reply, (answer (.patchSet ns name patch) s).1 = .ok reply →
    ∃ live stored, set? s ⟨ns, name⟩ = some live ∧
      set? (answer (.patchSet ns name patch) s).2 ⟨ns, name⟩ = some stored ∧
      KeepsReferences (live.merge patch) stored
  unasked : ∀ r s, r.written? = none → ∀ i, set? (answer r s).2 i = set? s i

namespace Store

theorem path?_metadata_stamped {key : String} (h : key ≠ "resourceVersion") (version : Nat)
    (object : Json) :
    (stamped version object).path? ["metadata", key] = object.path? ["metadata", key] := by
  rw [stamped, path?_setPath_of_ne h]

theorem referring : Referring answer set? where
  readSet ns name s live h := ok_of_readSet h
  create := by
    intro ns body id s reply written h
    cases present : s.set? id with
    | none =>
      rw [answer_create written present]
      refine ⟨_, (set?_putSet _ _ _ _).trans (if_pos rfl), hasMetadata_stamped _ _, ?_⟩
      rw [path?_metadata_stamped (by decide), admitted_metadata (by decide)]
    | some live =>
      rw [answer_taken written present] at h
      cases h
  patch := by
    intro ns name patch s reply h
    cases present : s.set? ⟨ns, name⟩ with
    | none =>
      rw [answer_missing present] at h
      cases h
    | some live =>
      cases stale : isStale patch live with
      | false =>
        rw [answer_patch present stale]
        refine ⟨live, _, rfl, (set?_putSet _ _ _ _).trans (if_pos rfl), hasMetadata_stamped _ _, ?_⟩
        rw [path?_metadata_stamped (by decide), path?_metadata_fillSet]
      | true =>
        rw [answer_refused present stale] at h
        cases h
  unasked := by
    intro r s unwritten i
    cases r with
    | patchStatus | annotate => exact set?_patchStorage _ _ _ _ _
    | createSet | patchSet => cases unwritten
    | _ => rfl

end Store

end StorageController
