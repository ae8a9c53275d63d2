import StorageController.StatefulSet.Managed
import StorageController.StatefulSet.Manifest
import StorageController.Proofs.Json.Diff

namespace StorageController

open Json

def Topology.managedFields (t : Topology) : Fields :=
  [("metadata", .obj [("labels", .obj (objectLabels t.name))]),
   ("spec", .obj [("replicas", .int t.replicas), ("template", Manifest.podTemplate t)])]

theorem view_manifest (t : Topology) : Managed.view t.manifest = .obj t.managedFields := rfl

theorem members_view (t : Topology) : (Managed.view t.manifest).members = t.managedFields := rfl

-- Both hold by evaluation: the texts and numbers of the topology stand only in scalars.
theorem managedFields_wellFormed (t : Topology) : wellFormed (.obj t.managedFields) = true := by
  rfl

theorem managedFields_nullFree (t : Topology) : nullFree (.obj t.managedFields) = true := by
  rfl

theorem managedFields_nullFreeOutsideLists (t : Topology) :
    nullFreeOutsideLists (.obj t.managedFields) = true :=
  nullFreeOutsideLists_of_nullFree (managedFields_nullFree t)

theorem path?_manifest_managed {t : Topology} {path : List String} (h : path ∈ Managed.paths) :
    t.manifest.path? path = (Json.obj t.managedFields).path? path := by
  simp only [Managed.paths, List.mem_cons, List.not_mem_nil, or_false] at h
  rcases h with rfl | rfl | rfl <;> rfl

/-- A document holds the managed fields as soon as it holds each of them in its place. -/
theorem isSubset_managedFields {t : Topology} {j : Json}
    (h : ∀ path ∈ Managed.paths, ∀ v, (Json.obj t.managedFields).path? path = some v →
      ∃ w, j.path? path = some w ∧ v.isSubset w = true) :
    isSubset (.obj t.managedFields) j = true := by
  simp only [Managed.paths, List.forall_mem_cons, List.not_mem_nil, false_implies,
    implies_true, and_true] at h
  obtain ⟨labels, replicas, template⟩ := h
  obtain ⟨l, atLabels, hl⟩ := labels _ rfl
  obtain ⟨r, atReplicas, hr⟩ := replicas _ rfl
  obtain ⟨p, atTemplate, hp⟩ := template _ rfl
  obtain ⟨metadata, hm, inMetadata⟩ := Option.bind_eq_some_iff.mp atLabels
  obtain ⟨spec, hs, inSpec⟩ := Option.bind_eq_some_iff.mp atReplicas
  obtain ⟨spec', hs', inSpec'⟩ := Option.bind_eq_some_iff.mp atTemplate
  obtain rfl := Option.some.inj (hs.symm.trans hs')
  simp only [path?, Option.bind_fun_some] at inMetadata inSpec inSpec'
  obtain ⟨fields, rfl, memM⟩ := eq_obj_of_get? hm
  obtain ⟨metadata, rfl, memL⟩ := eq_obj_of_get? inMetadata
  obtain ⟨spec, rfl, memR⟩ := eq_obj_of_get? inSpec
  have memS : fields.lookup "spec" = some (.obj spec) := hs
  have memP : spec.lookup "template" = some p := inSpec'
  simp [Topology.managedFields, isSubsetFields, memM, memL, memS, memR, memP, hl, hr, hp]

theorem volumeClaims_wellFormed (t : Topology) : (Manifest.volumeClaims t).wellFormed = true := by
  unfold Manifest.volumeClaims
  by_cases h : t.storageClass = "" <;> simp only [h, if_true, if_false] <;> rfl

theorem wellFormed_withMetadata {t : Topology} {key : String} {value : Json}
    (ns : t.ns.wellFormed = true) (fresh : key ∉ ["name", "namespace", "labels"])
    (hv : value.wellFormed = true) :
    (Manifest.withMetadata t [(key, value)]).wellFormed = true := by
  have metadata : wellFormed (.obj (Manifest.setMetadata t ++ [(key, value)])) = true := by
    have labels : wellFormed (.obj (objectLabels t.name)) = true := rfl
    have fresh : ("name" ≠ key ∧ "namespace" ≠ key) ∧ "labels" ≠ key := by
      simpa [eq_comm, and_assoc] using fresh
    rw [wellFormed_obj]
    refine ⟨?_, ?_⟩
    · simp [Manifest.setMetadata, fresh]
    · simp only [Manifest.setMetadata, List.cons_append, List.nil_append, List.forall_mem_cons]
      exact ⟨rfl, ns, labels, hv, by simp⟩
  have spec : wellFormed (.obj (Manifest.setSpec t)) = true := by
    rw [wellFormed_obj]
    refine ⟨by simp [Manifest.setSpec], ?_⟩
    simp only [Manifest.setSpec, List.forall_mem_cons]
    exact ⟨rfl, rfl, rfl, rfl, volumeClaims_wellFormed t, by simp⟩
  rw [Manifest.withMetadata, wellFormed_obj]
  refine ⟨by simp, ?_⟩
  simp only [List.forall_mem_cons]
  exact ⟨rfl, rfl, metadata, spec, by simp⟩

end StorageController
