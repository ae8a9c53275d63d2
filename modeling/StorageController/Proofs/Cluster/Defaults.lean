import StorageController.Cluster.Defaults
import StorageController.Proofs.Json.Subset

namespace StorageController.Cluster

open Json

/-- The document is held by what it is changed to, and stays well-formed. -/
def Fills (change : Json → Json) : Prop :=
  ∀ j : Json, j.wellFormed = true → j.isSubset (change j) = true ∧ (change j).wellFormed = true

def FillsFields (change : Fields → Fields) : Prop :=
  ∀ fields : Fields, wellFormed (.obj fields) = true →
    isSubset (.obj fields) (.obj (change fields)) = true ∧ wellFormed (.obj (change fields)) = true

theorem fills_inside {change : Fields → Fields} (h : FillsFields change) : Fills (inside change) := by
  intro j wf
  cases j with
  | obj fields => exact h fields wf
  | _ => exact ⟨isSubset_refl wf, wf⟩

theorem fills_each {change : Json → Json} (h : Fills change) : Fills (each change) := by
  intro j wf
  cases j with
  | arr items =>
    rw [wellFormed_arr] at wf
    refine ⟨(isSubset_arr_iff _ _).mpr ⟨_, rfl, ?_⟩, ?_⟩
    · induction items with
      | nil => rfl
      | cons item rest ih =>
        obtain ⟨first, others⟩ := List.forall_mem_cons.mp wf
        rw [List.map_cons, isSubsetItems, (h item first).1, ih others]
        rfl
    · rw [each, wellFormed_arr]
      intro item mem
      obtain ⟨before, there, rfl⟩ := List.mem_map.mp mem
      exact (h before (wf before there)).2
  | _ => exact ⟨isSubset_refl wf, wf⟩

theorem names_within (key : String) (change : Json → Json) (fields : Fields) :
    (within key change fields).map (·.1) = fields.map (·.1) := by
  simp [within]

theorem lookup_within (key k : String) (change : Json → Json) (fields : Fields) :
    (within key change fields).lookup k =
      (fields.lookup k).map fun value => if k = key then change value else value := by
  induction fields with
  | nil => rfl
  | cons field rest ih =>
    obtain ⟨name, value⟩ := field
    rw [within, List.map_cons, List.lookup_cons, List.lookup_cons]
    by_cases eq : k = name
    · subst eq
      simp
    · have ne : (k == name) = false := beq_eq_false_iff_ne.mpr eq
      simpa [ne, within] using ih

theorem fillsFields_within {change : Json → Json} (key : String) (h : Fills change) :
    FillsFields (within key change) := by
  intro fields wf
  obtain ⟨distinct, each⟩ := (wellFormed_obj fields).mp wf
  constructor
  · rw [isSubset_obj_obj, isSubsetFields_iff]
    intro field mem
    rw [lookup_within, lookup_of_mem distinct mem]
    refine ⟨_, rfl, ?_⟩
    by_cases eq : field.1 = key
    · simpa [eq] using (h field.2 (each field mem)).1
    · simpa [eq] using isSubset_refl (each field mem)
  · rw [wellFormed_obj, names_within]
    refine ⟨distinct, ?_⟩
    intro field mem
    obtain ⟨⟨name, value⟩, there, rfl⟩ := List.mem_map.mp mem
    have before : value.wellFormed = true := each _ there
    by_cases eq : name = key
    · simpa [eq] using (h value before).2
    · simpa [eq] using before

theorem fillsFields_fill (key : String) {value : Json} (hv : value.wellFormed = true) :
    FillsFields (fill key value) := by
  intro fields wf
  rw [fill]
  split
  next => exact ⟨isSubset_refl wf, wf⟩
  next absent =>
    obtain ⟨distinct, each⟩ := (wellFormed_obj fields).mp wf
    constructor
    · rw [isSubset_obj_obj, isSubsetFields_iff]
      intro field mem
      rw [List.lookup_append, lookup_of_mem distinct mem]
      exact ⟨field.2, rfl, isSubset_refl (each field mem)⟩
    · rw [wellFormed_obj, List.map_append, List.nodup_append]
      refine ⟨⟨distinct, by simp, ?_⟩, ?_⟩
      · intro name mem other new same
        obtain rfl : other = key := by simpa using new
        obtain ⟨field, there, rfl⟩ := List.mem_map.mp mem
        rw [← same, lookup_of_mem distinct there] at absent
        cases absent
      · intro field mem
        rcases List.mem_append.mp mem with there | new
        · exact each field there
        · rw [List.mem_singleton.mp new]
          exact hv

theorem FillsFields.comp {change change' : Fields → Fields} (h : FillsFields change)
    (h' : FillsFields change') : FillsFields fun fields => change' (change fields) := by
  intro fields wf
  obtain ⟨sub, wf'⟩ := h fields wf
  obtain ⟨sub', wf''⟩ := h' _ wf'
  exact ⟨isSubset_trans sub sub', wf''⟩

theorem fillsFields_fillContainer : FillsFields fillContainer := by
  have protocol : FillsFields (fill "protocol" "TCP") := fillsFields_fill _ rfl
  have ports := fills_each (fills_inside protocol)
  exact (fillsFields_within "ports" ports).comp (fillsFields_fill _ rfl)

theorem fillsFields_fillVolume : FillsFields fillVolume :=
  fillsFields_within "configMap" (fills_inside (fillsFields_fill "defaultMode" rfl))

theorem fillsFields_fillPod : FillsFields fillPod := by
  have containers := fills_each (fills_inside fillsFields_fillContainer)
  have volumes := fills_each (fills_inside fillsFields_fillVolume)
  exact (((fillsFields_within "volumes" volumes).comp
    (fillsFields_within "containers" containers)).comp
      (fillsFields_within "initContainers" containers)).comp (fillsFields_fill _ rfl)

theorem fillsFields_fillSpec : FillsFields fillSpec := by
  have template := fills_inside (fillsFields_within "spec" (fills_inside fillsFields_fillPod))
  exact ((fillsFields_within "template" template).comp (fillsFields_fill _ rfl)).comp
    (fillsFields_fill _ rfl)

theorem fills_fillSet : Fills fillSet :=
  fills_inside (fillsFields_within "spec" (fills_inside fillsFields_fillSpec))

end StorageController.Cluster
