import StorageController.Proofs.Pass.Convergence
import StorageController.Proofs.Pass.Course

namespace StorageController

open Json Condition

variable {t : Topology} {resource : Json}

def conditionsOf (status : Json) : List Json :=
  match status.get? "conditions" with
  | some (.arr entries) => entries
  | _ => []

theorem conditionsIn_of_status {status : Json} (h : resource.get? "status" = some status) :
    conditionsIn resource = conditionsOf status := by
  rw [conditionsIn, path?, h, Option.bind_some, path?, conditionsOf]
  cases status.get? "conditions" <;> rfl

theorem conditionsIn_congr {other : Json} (h : resource.get? "status" = other.get? "status") :
    conditionsIn resource = conditionsIn other := by
  rw [conditionsIn, conditionsIn, path?, path?, h]

def generationOf (resource : Json) : Json :=
  ((resource.path? ["metadata", "generation"]).getD .null).orElse (.int 0)

theorem generation_of_accepted (owned : StorageShaped resource)
    (accepted : Topology.ofResource resource = .ok t) : t.generation = generationOf resource := by
  obtain ⟨metadata, hm⟩ := owned.metadata
  obtain ⟨fields, rfl, mem⟩ := eq_obj_of_get? hm
  rw [Topology.generation_of_ofResource hm accepted, generationOf, path?_metadata _ mem]

theorem generationOf_ne_null (resource : Json) : generationOf resource ≠ .null := by
  intro null
  rw [generationOf, orElse] at null
  split at null
  next truthy =>
    rw [null] at truthy
    cases truthy
  next => cases null

theorem conditionsOf_merge {fields : Fields} {conditions : List Json}
    (distinct : (fields.map (·.1)).Nodup)
    (listed : fields.lookup "conditions" = some (.arr conditions)) (target : Json) :
    conditionsOf (target.merge (.obj fields)) = conditions := by
  rw [conditionsOf, get?_merge_of_lookup distinct listed (by simp) (by simp)]

variable [Redaction.VisitingOrder]

/-- A status on a malformed resource as it is stored over another. -/
theorem InvalidStatus.stored {clock : Clock} {fault : Fault} {status : Json}
    (written : InvalidStatus clock resource fault status)
    (plain : ∀ fields, generationOf resource ≠ .obj fields) (target : Json) :
    recordAll clock.texts (invalidReports fault (generationOf resource))
      (conditionsIn resource) = .ok (conditionsOf (target.merge status)) ∧
    (target.merge status).get? "observedGeneration" = some (generationOf resource) := by
  obtain ⟨conditions, recorded, rfl⟩ := written
  refine ⟨?_, get?_merge_of_lookup (by simp) rfl (generationOf_ne_null resource) plain target⟩
  rw [conditionsOf_merge (by simp) rfl]
  exact recorded

/-- A status on an outcome as it is stored over another. -/
theorem OutcomeStatus.stored {clock : Clock} {applied : Applied} {status : Json}
    (written : OutcomeStatus clock resource t applied status)
    (same : t.generation = generationOf resource)
    (plain : ∀ fields, generationOf resource ≠ .obj fields) (target : Json) :
    ∃ counted reports, applied.Reports t counted reports ∧
      recordAll clock.texts reports (conditionsIn resource) =
        .ok (conditionsOf (target.merge status)) ∧
      (target.merge status).get? "observedGeneration" = some t.generation ∧
      (counted ≠ .null → (∀ fields, counted ≠ .obj fields) →
        (target.merge status).get? "readyCount" = some counted) := by
  obtain ⟨counted, reports, conditions, _, reported, recorded, rfl⟩ := written
  rw [← same] at plain
  have ne : t.generation ≠ .null := same ▸ generationOf_ne_null resource
  refine ⟨counted, reports, reported, ?_, get?_merge_of_lookup (by simp) rfl ne plain target,
    fun present plain => get?_merge_of_lookup (by simp) rfl present plain target⟩
  rw [conditionsOf_merge (by simp) rfl]
  exact recorded

omit [Redaction.VisitingOrder] in
/-- The conditions of a status that was written are those that stand in the resource afterwards. -/
theorem StatusWritten.conditions {fields : Fields} {after : Json} {conditions : List Json}
    (change : StatusWritten resource (.obj fields) after) (distinct : (fields.map (·.1)).Nodup)
    (listed : fields.lookup "conditions" = some (.arr conditions)) :
    conditionsIn after = conditions :=
  (conditionsIn_of_status change.status).trans (conditionsOf_merge distinct listed _)

theorem InvalidStatus.listed {clock : Clock} {fault : Fault} {status : Json}
    (h : InvalidStatus clock resource fault status) (owned : StorageShaped resource) :
    StatusListed status := by
  obtain ⟨conditions, recorded, rfl⟩ := h
  obtain ⟨after, same, shaped⟩ := recordAll_entries clock.texts _ owned.entries
  cases same.symm.trans recorded
  exact ⟨_, conditions, rfl, by simp, rfl, shaped⟩

theorem OutcomeStatus.listed {clock : Clock} {applied : Applied} {status : Json}
    (h : OutcomeStatus clock resource t applied status) (owned : StorageShaped resource) :
    StatusListed status := by
  obtain ⟨counted, reports, conditions, _, _, recorded, rfl⟩ := h
  obtain ⟨after, same, shaped⟩ := recordAll_entries clock.texts reports owned.entries
  cases same.symm.trans recorded
  exact ⟨_, conditions, rfl, by simp, rfl, shaped⟩

theorem Written.listed {clock : Clock} {applying : List Exchange} {status : Json}
    (h : Written clock resource applying status) (owned : StorageShaped resource) :
    StatusListed status := by
  cases h with
  | malformed _ _ written => exact written.listed owned
  | reported _ _ _ written => exact written.listed owned

end StorageController
