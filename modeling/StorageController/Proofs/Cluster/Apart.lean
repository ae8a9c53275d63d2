import StorageController.Proofs.Pass.Isolation

namespace StorageController

open Json Cluster

/-- Two states with the same objects under an identity, up to their versions, and with the same
prospects there. -/
structure SameAt {σ ω : Type} (storage? set? : σ → Identity → Option Json)
    (prospects : σ → Identity → ω) (i : Identity) (s s' : σ) : Prop where
  storage : Option.Rel Renumbered (storage? s i) (storage? s' i)
  set : Option.Rel Renumbered (set? s i) (set? s' i)
  prospects : prospects s i = prospects s' i

/-- A cluster that keeps identities apart. What it does besides storing objects, such as failing,
is up to `prospects`, of which each identity has its own. -/
structure Apart {σ ω : Type} (answer : Request → σ → Reply × σ)
    (storage? set? : σ → Identity → Option Json) (prospects : σ → Identity → ω) : Prop where
  named : ∀ s i resource, storage? s i = some resource → Named i resource
  readStorage : ∀ ns name s resource, (answer (.readStorage ns name) s).1 = .ok resource →
    storage? s ⟨ns, name⟩ = some resource
  readSet : ∀ ns name s live, (answer (.readSet ns name) s).1 = .ok live →
    set? (answer (.readSet ns name) s).2 ⟨ns, name⟩ = some live
  elsewhere : ∀ r s i, r.identity ≠ i →
    storage? (answer r s).2 i = storage? s i ∧ set? (answer r s).2 i = set? s i ∧
      prospects (answer r s).2 i = prospects s i
  alike : ∀ r s s', (∀ ns name patch, r ≠ .patchSet ns name patch) →
    SameAt storage? set? prospects r.identity s s' →
    Agree Renumbered (answer r s).1 (answer r s').1 ∧
      SameAt storage? set? prospects r.identity (answer r s).2 (answer r s').2
  patch : ∀ i fields s s' live live', set? s i = some live → set? s' i = some live' →
    SameAt storage? set? prospects i s s' →
    let request (live : Json) : Request :=
      .patchSet i.ns i.name (Managed.guarded (versionIn live) fields)
    Agree Renumbered (answer (request live) s).1 (answer (request live') s').1 ∧
      SameAt storage? set? prospects i (answer (request live) s).2 (answer (request live') s').2

theorem Renumbered.rel_refl (object : Option Json) : Option.Rel Renumbered object object := by
  cases object with
  | none => exact .none
  | some object => exact .some (.refl object)

theorem SameAt.refl {σ ω : Type} {storage? set? : σ → Identity → Option Json}
    {prospects : σ → Identity → ω} (i : Identity) (s : σ) :
    SameAt storage? set? prospects i s s :=
  ⟨Renumbered.rel_refl _, Renumbered.rel_refl _, rfl⟩

/-- The places inside a storage resource that are written. -/
def writtenPlaces : List (List String) :=
  [["status"], ["metadata", "annotations"]]

theorem Renumbered.setPath {a b : Json} (h : Renumbered a b) {place : List String}
    (mem : place ∈ writtenPlaces) (patch : Json) :
    Renumbered (a.setPath place (((a.path? place).getD .null).merge patch))
      (b.setPath place (((b.path? place).getD .null).merge patch)) := by
  simp only [writtenPlaces, List.mem_cons, List.not_mem_nil, or_false] at mem
  rcases mem with rfl | rfl
  · have same : a.path? ["status"] = b.path? ["status"] := by
      rw [path?, path?, h.get? (by decide)]
    have kept : ∀ j value : Json, versionIn (j.setPath ["status"] value) = versionIn j := by
      intro j value
      rw [versionIn, path?, get?_setPath, if_neg (by decide), ← path?, versionIn]
    refine ⟨?_, ?_⟩
    · rw [unversioned_setPath_of_ne (by decide), unversioned_setPath_of_ne (by decide), h.same, same]
    · rw [kept, kept, h.numbered]
  · have kept : ∀ j value : Json,
        versionIn (j.setPath ["metadata", "annotations"] value) = versionIn j := by
      intro j value
      rw [versionIn, path?_setPath_of_ne (by decide), versionIn]
    refine ⟨?_, ?_⟩
    · rw [unversioned_setPath_metadata (by decide), unversioned_setPath_metadata (by decide), h.same,
        h.path?_metadata (by decide)]
    · rw [kept, kept, h.numbered]

theorem Named.setPath {i : Identity} {resource : Json} (h : Named i resource)
    {place : List String} (mem : place ∈ writtenPlaces) (value : Json) :
    Named i (resource.setPath place value) := by
  refine ⟨Eq.trans ?_ h.own, h.ns⟩
  simp only [writtenPlaces, List.mem_cons, List.not_mem_nil, or_false] at mem
  rcases mem with rfl | rfl
  · have kept : ∀ key, (resource.setPath ["status"] value).path? ["metadata", key] =
        resource.path? ["metadata", key] := by
      intro key
      rw [path?, get?_setPath, if_neg (by decide), ← path?]
    rw [Store.identityOf, Store.identityOf, kept, kept]
  · rw [Store.identityOf, Store.identityOf, path?_setPath_of_ne (by decide),
      path?_setPath_of_ne (by decide)]

namespace Store

variable {s s' : Store} {i : Identity}

theorem elsewhere {r : Request} (other : r.identity ≠ i) (s : Store) :
    (answer r s).2.storage? i = s.storage? i ∧ (answer r s).2.set? i = s.set? i := by
  cases r with
  | readStorage ns name => exact ⟨rfl, rfl⟩
  | readSet ns name => exact ⟨rfl, rfl⟩
  | patchStatus ns name patch | annotate ns name patch =>
    rw [answer, patchStorage]
    split
    next => exact ⟨rfl, rfl⟩
    next => exact ⟨(storage?_putStorage _ _ _ _).trans (if_neg (Ne.symm other)), rfl⟩
  | createSet ns body =>
    simp only [answer, createSet]
    split
    next => exact ⟨rfl, rfl⟩
    next => exact ⟨rfl, (set?_putSet _ _ _ _).trans (if_neg (Ne.symm other))⟩
  | patchSet ns name patch =>
    rw [answer, patchSet]
    split
    next => exact ⟨rfl, rfl⟩
    next =>
      split
      next => exact ⟨rfl, rfl⟩
      next => exact ⟨rfl, (set?_putSet _ _ _ _).trans (if_neg (Ne.symm other))⟩

/-- Every storage resource bears the identity under which it is stored. -/
def AllNamed (s : Store) : Prop :=
  ∀ i resource, s.storage? i = some resource → Named i resource

theorem AllNamed.patchStorage (named : s.AllNamed) {place : List String}
    (mem : place ∈ writtenPlaces) (id : Identity) (patch : Json) :
    (s.patchStorage id place patch).2.AllNamed := by
  intro i resource there
  rw [Store.patchStorage] at there
  split at there
  next => exact named i resource there
  next object present =>
    rw [storage?_putStorage] at there
    split at there
    next eq =>
      cases there
      exact eq ▸ (named id object present).setPath mem _
    next => exact named i resource there

theorem AllNamed.answer (named : s.AllNamed) (r : Request) : (answer r s).2.AllNamed := by
  cases r with
  | readStorage | readSet => exact named
  | patchStatus | annotate => exact named.patchStorage (by decide) _ _
  | createSet ns body =>
    simp only [Store.answer, createSet]
    split <;> exact named
  | patchSet ns name patch =>
    rw [Store.answer, patchSet]
    split
    next => exact named
    next => split <;> exact named

def quiet (_ : Store) (_ : Identity) : Unit :=
  ()

theorem read_alike {objects objects' : Objects}
    (same : Option.Rel Renumbered (objects.get? i) (objects'.get? i)) (plural : String) :
    Agree Renumbered (read plural objects i) (read plural objects' i) := by
  rw [read, read]
  cases found : objects.get? i <;> cases found' : objects'.get? i <;> rw [found, found'] at same <;>
    cases same
  · exact .error _
  next seen => exact .ok seen

theorem patchStorage_alike (same : SameAt storage? set? quiet i s s') {place : List String}
    (mem : place ∈ writtenPlaces) (patch : Json) :
    Agree Renumbered (s.patchStorage i place patch).1 (s'.patchStorage i place patch).1 ∧
      SameAt storage? set? quiet i (s.patchStorage i place patch).2
        (s'.patchStorage i place patch).2 := by
  have storage : Option.Rel Renumbered (s.storages.get? i) (s'.storages.get? i) := same.storage
  rw [patchStorage, patchStorage]
  cases found : s.storages.get? i <;> cases found' : s'.storages.get? i <;>
    rw [found, found'] at storage <;> cases storage
  · exact ⟨.error _, same⟩
  next seen =>
    have after := seen.setPath mem patch
    refine ⟨.ok after, ?_, same.set, rfl⟩
    rw [storage?_putStorage, storage?_putStorage, if_pos rfl, if_pos rfl]
    exact .some after

theorem createSet_alike {ns body : Json}
    (same : SameAt storage? set? quiet (Request.createSet ns body).identity s s') :
    Agree Renumbered (answer (.createSet ns body) s).1 (answer (.createSet ns body) s').1 ∧
      SameAt storage? set? quiet (Request.createSet ns body).identity
        (answer (.createSet ns body) s).2 (answer (.createSet ns body) s').2 := by
  have written : (Request.createSet ns body).written? =
    some (Request.createSet ns body).identity := rfl
  have set := same.set
  cases found : s.set? (Request.createSet ns body).identity <;>
    cases found' : s'.set? (Request.createSet ns body).identity <;>
    rw [found, found'] at set <;> cases set
  next =>
    have after := fun m n => Renumbered.stamped
      (Eq.refl (admitted (Request.createSet ns body).identity.name body).unversioned) m n
    rw [answer_create written found, answer_create written found']
    refine ⟨.ok (after _ _), same.storage, ?_, rfl⟩
    rw [set?_putSet, set?_putSet, if_pos rfl, if_pos rfl]
    exact .some (after _ _)
  next =>
    rw [answer_taken written found, answer_taken written found']
    exact ⟨.error _, same⟩

theorem isStale_guarded {live : Json} (sound : s.Sound) (present : s.set? i = some live)
    (fields : Fields) : isStale (Managed.guarded (versionIn live) fields) live = false := by
  obtain ⟨n, _, version⟩ := sound i live present
  have carried : (Managed.guarded (versionIn live) fields).path? ["metadata", "resourceVersion"] =
      some (versionText n) := by
    rw [version, Managed.guarded, if_pos (versionText_truthy n), path?_setPath]
  have own : (live.path? ["metadata", "resourceVersion"]).getD .null = versionText n := version
  have equal : (versionText n).same (versionText n) = true := same_refl rfl
  rw [isStale, carried, own]
  exact congrArg not equal

theorem patchSet_alike {live live' : Json} (sound : s.Sound) (sound' : s'.Sound)
    (present : s.set? i = some live) (present' : s'.set? i = some live')
    (same : SameAt storage? set? quiet i s s') (fields : Fields) :
    let request (live : Json) : Request :=
      .patchSet i.ns i.name (Managed.guarded (versionIn live) fields)
    Agree Renumbered (answer (request live) s).1 (answer (request live') s').1 ∧
      SameAt storage? set? quiet i (answer (request live) s).2 (answer (request live') s').2 := by
  intro request
  have seen : Renumbered live live' := by
    have set := same.set
    rw [present, present'] at set
    cases set with
    | some seen => exact seen
  have after := seen.patched fields (s.version + 1) (s'.version + 1)
  rw [answer_patch present (isStale_guarded sound present fields),
    answer_patch present' (isStale_guarded sound' present' fields)]
  refine ⟨.ok after, same.storage, ?_, rfl⟩
  rw [set?_putSet, set?_putSet, if_pos rfl, if_pos rfl]
  exact .some after

/-- Two states that are the same at an identity answer requests there alike, and stay the same
there. -/
theorem alike {r : Request} (plain : ∀ ns name patch, r ≠ .patchSet ns name patch)
    (same : SameAt storage? set? quiet r.identity s s') :
    Agree Renumbered (answer r s).1 (answer r s').1 ∧
      SameAt storage? set? quiet r.identity (answer r s).2 (answer r s').2 := by
  cases r with
  | readStorage ns name => exact ⟨read_alike same.storage _, same⟩
  | readSet ns name => exact ⟨read_alike same.set _, same⟩
  | patchStatus ns name status => exact patchStorage_alike same (by decide) status
  | annotate ns name notes => exact patchStorage_alike same (by decide) notes
  | createSet ns body => exact createSet_alike same
  | patchSet ns name patch => exact absurd rfl (plain ns name patch)

end Store

/-- A cluster in memory in which each storage resource bears its identity. For each identity it is
told beforehand which of the requests to come fail. -/
structure Shared where
  store : Store
  sound : store.Sound
  named : store.AllNamed
  failures : Identity → List (Option Fault)

namespace Shared

def storage? (s : Shared) (i : Identity) : Option Json :=
  s.store.storage? i

def set? (s : Shared) (i : Identity) : Option Json :=
  s.store.set? i

def later (s : Shared) (i : Identity) : Identity → List (Option Fault) :=
  fun j => if j = i then (s.failures j).tail else s.failures j

def answer (r : Request) (s : Shared) : Reply × Shared :=
  match (s.failures r.identity).head?.join with
  | some fault => (.error fault, { s with failures := s.later r.identity })
  | none =>
    ((Store.answer r s.store).1,
      ⟨(Store.answer r s.store).2, (Store.change_answer r s.store).sound s.sound,
        s.named.answer r, s.later r.identity⟩)

variable {s s' : Shared} {i : Identity}

theorem failures_answer (r : Request) (s : Shared) :
    (answer r s).2.failures = s.later r.identity := by
  rw [answer]
  split <;> rfl

theorem answer_cases (r : Request) (s : Shared) :
    (∃ fault, (s.failures r.identity).head?.join = some fault ∧ (answer r s).1 = .error fault ∧
      (answer r s).2.store = s.store) ∨
    (s.failures r.identity).head?.join = none ∧ (answer r s).1 = (Store.answer r s.store).1 ∧
      (answer r s).2.store = (Store.answer r s.store).2 := by
  rw [answer]
  split
  next fault due => exact Or.inl ⟨fault, due, rfl, rfl⟩
  next due => exact Or.inr ⟨due, rfl, rfl⟩

theorem sameAt_iff : SameAt storage? set? failures i s s' ↔
    SameAt Store.storage? Store.set? Store.quiet i s.store s'.store ∧ s.failures i = s'.failures i :=
  ⟨fun same => ⟨⟨same.storage, same.set, rfl⟩, same.prospects⟩,
    fun ⟨same, due⟩ => ⟨same.storage, same.set, due⟩⟩

theorem alike_of_store {r r' : Request} (own : r.identity = i) (own' : r'.identity = i)
    (same : SameAt storage? set? failures i s s')
    (stores : Agree Renumbered (Store.answer r s.store).1 (Store.answer r' s'.store).1 ∧
      SameAt Store.storage? Store.set? Store.quiet i (Store.answer r s.store).2
        (Store.answer r' s'.store).2) :
    Agree Renumbered (answer r s).1 (answer r' s').1 ∧
      SameAt storage? set? failures i (answer r s).2 (answer r' s').2 := by
  obtain ⟨objects, due⟩ := sameAt_iff.mp same
  have later : (answer r s).2.failures i = (answer r' s').2.failures i := by
    rw [failures_answer, failures_answer, own, own', Shared.later, Shared.later, if_pos rfl,
      if_pos rfl, due]
  rw [sameAt_iff]
  rcases answer_cases r s with ⟨fault, failed, reply, kept⟩ | ⟨served, reply, stored⟩ <;>
    rcases answer_cases r' s' with ⟨fault', failed', reply', kept'⟩ | ⟨served', reply', stored'⟩ <;>
    rw [reply, reply']
  · rw [own, due, ← own', failed'] at failed
    cases failed
    rw [kept, kept']
    exact ⟨.error fault, objects, later⟩
  · rw [own, due, ← own', served'] at failed
    cases failed
  · rw [own, due, ← own', failed'] at served
    cases served
  · rw [stored, stored']
    exact ⟨stores.1, stores.2, later⟩

/-- The cluster in memory keeps identities apart, whatever fails. -/
theorem apart : Apart answer storage? set? failures where
  named s := s.named
  readStorage := by
    intro ns name s resource h
    rcases answer_cases (.readStorage ns name) s with ⟨fault, _, reply, _⟩ | ⟨_, reply, _⟩
    · cases reply.symm.trans h
    · exact Store.ok_of_readStorage (reply.symm.trans h)
  readSet := by
    intro ns name s live h
    rcases answer_cases (.readSet ns name) s with ⟨fault, _, reply, _⟩ | ⟨_, reply, stored⟩
    · cases reply.symm.trans h
    · rw [set?, stored]
      exact Store.ok_of_readSet (reply.symm.trans h)
  elsewhere := by
    intro r s i other
    have due : (answer r s).2.failures i = s.failures i := by
      rw [failures_answer, later, if_neg (Ne.symm other)]
    rw [storage?, set?]
    rcases answer_cases r s with ⟨fault, _, _, kept⟩ | ⟨_, _, stored⟩
    · rw [kept]
      exact ⟨rfl, rfl, due⟩
    · rw [stored]
      obtain ⟨storage, set⟩ := Store.elsewhere other s.store
      exact ⟨storage, set, due⟩
  alike := by
    intro r s s' plain same
    exact alike_of_store rfl rfl same (Store.alike plain (sameAt_iff.mp same).1)
  patch := by
    intro i fields s s' live live' present present' same
    exact alike_of_store rfl rfl same
      (Store.patchSet_alike s.sound s'.sound present present' (sameAt_iff.mp same).1 fields)

end Shared

end StorageController
