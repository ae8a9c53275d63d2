import StorageController.Proofs.Json.Canonical
import StorageController.Proofs.StatefulSet.Change

namespace StorageController

open Json

variable {t t' : Topology} {ns ns' : String}

theorem floatFree_manifest (h : t.ns = .str ns) : t.manifest.floatFree = true := by
  have claims : (Manifest.volumeClaims t).floatFree = true := by
    unfold Manifest.volumeClaims
    by_cases none : t.storageClass = "" <;> simp only [none, if_true, if_false] <;> rfl
  have metadata : floatFree (.obj (Manifest.setMetadata t)) = true := by
    rw [Manifest.setMetadata, h]
    rfl
  have spec : floatFree (.obj (Manifest.setSpec t)) = true := by
    rw [floatFree_obj]
    simp only [Manifest.setSpec, List.forall_mem_cons]
    exact ⟨rfl, rfl, rfl, rfl, claims, by simp⟩
  rw [Topology.manifest, Manifest.withMetadata, List.append_nil, floatFree_obj]
  simp only [List.forall_mem_cons]
  exact ⟨rfl, rfl, metadata, spec, by simp⟩

theorem images_of_sortKeys_eq (same : sortKeys t.manifest = sortKeys t'.manifest) :
    t.images = t'.images := by
  have containers := Option.some.inj
    (path?_of_sortKeys_eq same ["spec", "template", "spec", "containers"])
  rw [images_eq_iff]
  intro domain
  obtain ⟨role, mem, rfl⟩ := exists_service domain
  have each := map_of_sortKeys_eq containers
  rw [List.map_map, List.map_map, List.map_inj_left] at each
  have container : sortKeys (Manifest.container role t) = sortKeys (Manifest.container role t') :=
    each role mem
  exact Json.str.inj (Option.some.inj (path?_of_sortKeys_eq container ["image"]))

theorem ringConfigMap_of_sortKeys_eq (same : sortKeys t.manifest = sortKeys t'.manifest) :
    t.ringConfigMap = t'.ringConfigMap := by
  have volumes := Option.some.inj
    (path?_of_sortKeys_eq same ["spec", "template", "spec", "volumes"])
  have volume := Option.some.inj (getElem?_of_sortKeys_eq volumes 1)
  exact Json.str.inj (Option.some.inj (path?_of_sortKeys_eq volume ["configMap", "name"]))

theorem exists_volumeClaims_eq (t : Topology) :
    ∃ claim, Manifest.volumeClaims t = .arr [claim] ∧
      claim.path? ["spec", "storageClassName"] =
        if t.storageClass = "" then none else some (.str t.storageClass) := by
  refine ⟨_, rfl, ?_⟩
  by_cases none : t.storageClass = "" <;> simp only [none, if_true, if_false] <;> rfl

/-- The claim of a pod has the member only if a class is set, so no class is taken for none. -/
theorem storageClass_of_sortKeys_eq (same : sortKeys t.manifest = sortKeys t'.manifest) :
    t.storageClass = t'.storageClass := by
  obtain ⟨claim, eq, found⟩ := exists_volumeClaims_eq t
  obtain ⟨claim', eq', found'⟩ := exists_volumeClaims_eq t'
  have claims := Option.some.inj (path?_of_sortKeys_eq same ["spec", "volumeClaimTemplates"])
  change sortKeys (Manifest.volumeClaims t) = sortKeys (Manifest.volumeClaims t') at claims
  rw [eq, eq'] at claims
  have member := path?_of_sortKeys_eq (Option.some.inj (getElem?_of_sortKeys_eq claims 0))
    ["spec", "storageClassName"]
  rw [found, found'] at member
  by_cases none : t.storageClass = "" <;> by_cases none' : t'.storageClass = ""
  · rw [none, none']
  · simp [none, none'] at member
  · simp [none, none'] at member
  · rw [if_neg none, if_neg none'] at member
    exact Json.str.inj (Option.some.inj member)

/-- The canonical text identifies the topology, up to what only the server decides. -/
theorem canonical_manifest_eq_iff (h : t.ns = .str ns) (h' : t'.ns = .str ns') :
    t.manifest.canonical = t'.manifest.canonical ↔
      t.ns = t'.ns ∧ t.name = t'.name ∧ t.replicas = t'.replicas ∧ t.images = t'.images ∧
        t.storageClass = t'.storageClass ∧ t.ringConfigMap = t'.ringConfigMap := by
  rw [canonical_eq_iff (floatFree_manifest h) (floatFree_manifest h')]
  constructor
  · intro same
    have space := Option.some.inj (path?_of_sortKeys_eq same ["metadata", "namespace"])
    have name := Option.some.inj (path?_of_sortKeys_eq same ["metadata", "name"])
    have replicas := Option.some.inj (path?_of_sortKeys_eq same ["spec", "replicas"])
    rw [h, h'] at space ⊢
    exact ⟨space, Json.str.inj name, Json.int.inj replicas, images_of_sortKeys_eq same,
      storageClass_of_sortKeys_eq same, ringConfigMap_of_sortKeys_eq same⟩
  · obtain ⟨_, _, _, _, _, _, _, _, _, _, _, _⟩ := t
    obtain ⟨_, _, _, _, _, _, _, _, _, _, _, _⟩ := t'
    simp only [Topology.images, List.cons.injEq]
    rintro ⟨rfl, rfl, rfl, ⟨rfl, rfl, rfl, rfl, rfl, _⟩, rfl, rfl⟩
    rfl

/-- The identifier and the generation leave the text as it is; a storage class changes it. -/
theorem canonical_manifest_eq_iff_renumbered :
    let t : Topology := ⟨"swift", "störage \"😀\"", "5", .int 1, -3, "account:1", "container:1",
      "object:1", "proxy:1", "memcached:1", "", "ring"⟩
    t.manifest.canonical = { t with uid := "6", generation := .int 7 }.manifest.canonical ∧
      t.manifest.canonical ≠ { t with storageClass := "fast" }.manifest.canonical := by
  intro t
  constructor
  · exact (canonical_manifest_eq_iff rfl rfl).mpr ⟨rfl, rfl, rfl, rfl, rfl, rfl⟩
  · intro text
    obtain ⟨_, _, _, _, storageClass, _⟩ := (canonical_manifest_eq_iff rfl rfl).mp text
    exact absurd storageClass (by decide)

end StorageController
