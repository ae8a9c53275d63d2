import StorageController.Proofs.Cluster.Defaults
import StorageController.Proofs.Cluster.Settling

namespace StorageController

open Json Cluster

theorem Objects.get?_put (objects : Objects) (id i : Identity) (object : Json) :
    (objects.put id object).get? i = if i = id then some object else objects.get? i := by
  induction objects with
  | nil => grind [Objects.put, Objects.get?]
  | cons entry rest ih => grind [Objects.put, Objects.get?]

theorem Objects.get?_erase (objects : Objects) (id i : Identity) :
    (objects.erase id).get? i = if i = id then none else objects.get? i := by
  induction objects with
  | nil => simp [Objects.erase, Objects.get?]
  | cons entry rest ih => grind [Objects.erase, Objects.get?]

namespace Store

def set? (s : Store) (id : Identity) : Option Json :=
  s.sets.get? id

def storage? (s : Store) (id : Identity) : Option Json :=
  s.storages.get? id

end Store

namespace Json

theorem get?_setPath (key k : String) (keys : List String) (j value : Json) :
    (j.setPath (key :: keys) value).get? k =
      if k = key then some (((j.get? key).getD (.obj [])).setPath keys value) else j.get? k := by
  rw [setPath, get?, lookup_setField]
  cases j <;> rfl

/-- Writing one member of an object inside an object leaves the other members alone. -/
theorem path?_setPath_of_ne {outer key k : String} (h : k ≠ key) (j value : Json) :
    (j.setPath [outer, key] value).path? [outer, k] = j.path? [outer, k] := by
  rw [path?, get?_setPath, if_pos rfl, Option.bind_some, path?, get?_setPath, if_neg h, path?]
  cases j.get? outer with
  | none => rfl
  | some inside => rfl

end Json

theorem get?_fillSet (key : String) (j : Json) :
    (fillSet j).get? key =
      if key = "spec" then (j.get? "spec").map (inside fillSpec) else j.get? key := by
  cases j with
  | obj fields =>
    change (within "spec" (inside fillSpec) fields).lookup key = _
    rw [lookup_within]
    by_cases eq : key = "spec"
    · subst eq
      simp [get?]
    · simp [eq, get?]
  | _ => simp [fillSet, inside, get?]

theorem get?_stamped (version : Nat) (j : Json) {key : String} (h : key ≠ "metadata") :
    (Store.stamped version j).get? key = j.get? key := by
  rw [Store.stamped, get?_setPath, if_neg h]

theorem get?_metadata_setPath (key : String) (j value : Json) :
    ∃ fields, (j.setPath ["metadata", key] value).get? "metadata" = some (.obj fields) := by
  rw [get?_setPath, if_pos rfl, setPath]
  exact ⟨_, rfl⟩

/-- A StatefulSet as it is stored agrees with the one that was written, filled up, in the managed
fields as soon as it agrees in the specification and in the labels. -/
theorem managed_of_spec {written stored : Json}
    (spec : stored.get? "spec" = (fillSet written).get? "spec")
    (labels : stored.path? ["metadata", "labels"] = written.path? ["metadata", "labels"])
    (wf : written.wellFormed = true) :
    ∃ filled, written.isSubset filled = true ∧
      ∀ path ∈ Managed.paths, stored.path? path = filled.path? path := by
  refine ⟨fillSet written, (fills_fillSet written wf).1, ?_⟩
  intro path h
  simp only [Managed.paths, List.mem_cons, List.not_mem_nil, or_false] at h
  rcases h with rfl | rfl | rfl
  · rw [labels, path?, path?, get?_fillSet, if_neg (by decide)]
  · rw [path?, path?, spec]
  · rw [path?, path?, spec]

theorem admitted_spec (name body : Json) :
    (Store.admitted name body).get? "spec" = (fillSet body).get? "spec" := by
  rw [Store.admitted, get?_setPath, if_neg (by decide), get?_fillSet, get?_fillSet, if_pos rfl,
    if_pos rfl, get?_setPath, if_neg (by decide), get?_setPath, if_neg (by decide)]

theorem path?_metadata_fillSet (key : String) (j : Json) :
    (fillSet j).path? ["metadata", key] = j.path? ["metadata", key] := by
  rw [path?, get?_fillSet, if_neg (by decide), path?]

theorem admitted_metadata {key : String} (h : key ∉ ["uid", "generation"]) (name body : Json) :
    (Store.admitted name body).path? ["metadata", key] = body.path? ["metadata", key] := by
  simp only [List.mem_cons, List.not_mem_nil, or_false, not_or] at h
  rw [Store.admitted, path?, get?_setPath, if_neg (by decide), ← path?, path?_metadata_fillSet,
    path?_setPath_of_ne h.2, path?_setPath_of_ne h.1]

theorem admitted_status (name body : Json) :
    (Store.admitted name body).get? "status" = some (.obj [("replicas", .int 0)]) := by
  rw [Store.admitted, get?_setPath, if_pos rfl, setPath]

theorem settles_admitted {body : Json} (version : Nat) (name : Json) (wf : body.wellFormed = true) :
    SetShaped (Store.stamped version (Store.admitted name body)) ∧
      Settles body (Store.stamped version (Store.admitted name body)) := by
  have shaped : SetShaped (Store.stamped version (Store.admitted name body)) := by
    refine ⟨get?_metadata_setPath _ _ _, ?_⟩
    intro status h
    rw [get?_stamped _ _ (by decide), admitted_status] at h
    cases h
    refine Or.inr ⟨_, rfl, ?_⟩
    intro ready none
    cases none
  refine ⟨shaped, shaped, managed_of_spec ?_ ?_ wf⟩
  · rw [get?_stamped _ _ (by decide), admitted_spec]
  · rw [Store.stamped, path?_setPath_of_ne (by decide), admitted_metadata (by decide)]

theorem settles_filled {patched : Json} (version : Nat) (shaped : SetShaped patched)
    (wf : patched.wellFormed = true) :
    SetShaped (Store.stamped version (fillSet patched)) ∧
      Settles patched (Store.stamped version (fillSet patched)) := by
  have shaped' : SetShaped (Store.stamped version (fillSet patched)) := by
    refine ⟨get?_metadata_setPath _ _ _, ?_⟩
    intro status h
    rw [get?_stamped _ _ (by decide), get?_fillSet, if_neg (by decide)] at h
    exact shaped.status status h
  refine ⟨shaped', shaped', managed_of_spec ?_ ?_ wf⟩
  · rw [get?_stamped _ _ (by decide)]
  · rw [Store.stamped, path?_setPath_of_ne (by decide), path?_metadata_fillSet]

namespace Store

variable {s : Store}

theorem set?_putSet (s : Store) (id i : Identity) (object : Json) :
    (s.putSet id object).set? i =
      if i = id then some (stamped (s.version + 1) object) else s.set? i :=
  Objects.get?_put _ _ _ _

theorem storage?_putStorage (s : Store) (id i : Identity) (object : Json) :
    (s.putStorage id object).storage? i = if i = id then some object else s.storage? i :=
  Objects.get?_put _ _ _ _

theorem set?_patchStorage (s : Store) (id i : Identity) (path : List String) (patch : Json) :
    (s.patchStorage id path patch).2.set? i = s.set? i := by
  unfold patchStorage
  split <;> rfl

theorem isStale_of_version {patch object : Json} (wf : patch.wellFormed = true)
    (h : ∀ version, patch.path? ["metadata", "resourceVersion"] = some version →
      object.path? ["metadata", "resourceVersion"] = some version) :
    isStale patch object = false := by
  unfold isStale
  split
  next => rfl
  next => rfl
  next version _ found =>
    rw [h version found, Option.getD_some, same_refl (path?_wellFormed wf found)]
    rfl

theorem ok_of_readStorage {ns name object : Json}
    (h : (answer (.readStorage ns name) s).1 = .ok object) :
    s.storage? ⟨ns, name⟩ = some object := by
  rw [answer, read] at h
  split at h
  next found present =>
    cases h
    exact present
  next => cases h

theorem ok_of_readSet {ns name live : Json} (h : (answer (.readSet ns name) s).1 = .ok live) :
    s.set? ⟨ns, name⟩ = some live := by
  rw [answer, read] at h
  split at h
  next found present =>
    cases h
    exact present
  next => cases h

theorem answer_create {ns body : Json} {id : Identity}
    (written : (Request.createSet ns body).written? = some id) (absent : s.set? id = none) :
    answer (.createSet ns body) s =
      (.ok (stamped (s.version + 1) (admitted id.name body)),
        s.putSet id (admitted id.name body)) := by
  cases written
  replace absent : s.sets.get? _ = none := absent
  rw [answer, createSet, absent]

theorem answer_taken {ns body live : Json} {id : Identity}
    (written : (Request.createSet ns body).written? = some id) (present : s.set? id = some live) :
    answer (.createSet ns body) s =
      (.error (.conflict (setPlural ++ " " ++ id.name.display ++ " already exists")), s) := by
  cases written
  replace present : s.sets.get? _ = some live := present
  rw [answer, createSet, present]

theorem answer_patch {ns name patch live : Json} (present : s.set? ⟨ns, name⟩ = some live)
    (current : isStale patch live = false) :
    answer (.patchSet ns name patch) s =
      (.ok (stamped (s.version + 1) (fillSet (live.merge patch))),
        s.putSet ⟨ns, name⟩ (fillSet (live.merge patch))) := by
  replace present : s.sets.get? _ = some live := present
  rw [answer, patchSet, present]
  simp [current]

theorem answer_refused {ns name patch live : Json} (present : s.set? ⟨ns, name⟩ = some live)
    (stale : isStale patch live = true) :
    answer (.patchSet ns name patch) s =
      (.error (.conflict "the object has been modified"), s) := by
  replace present : s.sets.get? _ = some live := present
  rw [answer, patchSet, present]
  simp [stale]

theorem answer_missing {ns name patch : Json} (missing : s.set? ⟨ns, name⟩ = none) :
    answer (.patchSet ns name patch) s = (.error (absent setPlural name), s) := by
  replace missing : s.sets.get? _ = none := missing
  rw [answer, patchSet, missing]

theorem answer_status {ns name status object : Json}
    (present : s.storage? ⟨ns, name⟩ = some object) :
    answer (.patchStatus ns name status) s =
      (.ok (object.setPath ["status"] (((object.path? ["status"]).getD .null).merge status)),
        s.putStorage ⟨ns, name⟩
          (object.setPath ["status"] (((object.path? ["status"]).getD .null).merge status))) := by
  replace present : s.storages.get? _ = some object := present
  rw [answer, patchStorage, present]

theorem statusWritten_setPath (object status : Json) :
    StatusWritten object status
      (object.setPath ["status"] (((object.path? ["status"]).getD .null).merge status)) := by
  refine ⟨?_, ?_, ?_⟩
  · rw [get?_setPath, if_pos rfl, setPath, path?]
    cases object.get? "status" <;> rfl
  · rw [get?_setPath, if_neg (by decide)]
  · intro fields h
    rw [get?_setPath, if_neg (by decide)]
    exact ⟨fields, h, fun _ _ => rfl⟩

theorem settling : Settling answer storage? set? where
  readStorage := by
    intro ns name s object present
    replace present : s.storages.get? _ = some object := present
    rw [answer, read, present]
  readSet := by
    intro ns name s live present
    replace present : s.sets.get? _ = some live := present
    rw [answer, read, present]
  readAbsent := by
    intro ns name s missing
    replace missing : s.sets.get? _ = none := missing
    rw [answer, read, missing]
    exact ⟨_, rfl⟩
  create := by
    intro ns body id s written missing wf _
    obtain ⟨shaped, settles⟩ := settles_admitted (s.version + 1) id.name wf
    refine ⟨_, _, _, answer_create written missing, shaped, ?_, settles, fun _ => rfl⟩
    rw [set?_putSet, if_pos rfl]
  patch := by
    intro ns name patch live s present version wf wf' shaped
    obtain ⟨shaped', settles⟩ := settles_filled (s.version + 1) shaped (wellFormed_merge wf wf')
    refine ⟨_, _, _, answer_patch present (isStale_of_version wf' version), shaped', ?_, settles,
      fun _ => rfl⟩
    rw [set?_putSet, if_pos rfl]
  status := by
    intro ns name status s object present
    exact ⟨_, _, _, answer_status present, statusWritten_setPath object status,
      fun i => storage?_putStorage _ _ i _, fun _ => rfl⟩
  statusAbsent := by
    intro ns name status s missing
    replace missing : s.storages.get? _ = none := missing
    rw [answer, patchStorage, missing]
    exact ⟨_, rfl⟩

end Store

end StorageController
