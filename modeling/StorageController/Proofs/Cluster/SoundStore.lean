import StorageController.Proofs.Cluster.Store

namespace StorageController

open Json

namespace Store

variable {s s' s'' : Store}

theorem versionText_injective {m n : Nat} (h : versionText m = versionText n) : m = n := by
  have digits : Nat.toDigits 10 m = Nat.toDigits 10 n := String.ofList_injective (Json.str.inj h)
  have value := congrArg (Nat.ofDigitChars 10 · 0) digits
  simpa using value

theorem versionText_same {m n : Nat} (h : (versionText m).same (versionText n) = true) : m = n := by
  have text : String.ofList (Nat.toDigits 10 m) = String.ofList (Nat.toDigits 10 n) := by
    simpa [versionText, same, sameScalar] using h
  exact versionText_injective (congrArg Json.str text)

theorem versionText_truthy (n : Nat) : (versionText n).truthy = true := by
  simp [versionText, truthy]

theorem versionIn_stamped (version : Nat) (object : Json) :
    versionIn (stamped version object) = versionText version := by
  rw [versionIn, stamped, path?_setPath]
  rfl

def Issued (s : Store) (version : Json) : Prop :=
  ∃ n, n ≤ s.version ∧ version = versionText n

def Sound (s : Store) : Prop :=
  ∀ id object, s.set? id = some object → s.Issued (versionIn object)

/-- What a request or an act of somebody else makes of the cluster. -/
inductive Change (s : Store) : Store → Prop
  | kept : Change s s
  | putStorage (id : Identity) (object : Json) : Change s (s.putStorage id object)
  | putSet (id : Identity) (object : Json) : Change s (s.putSet id object)
  | deleteStorage (id : Identity) : Change s { s with storages := s.storages.erase id }
  | deleteSet (id : Identity) : Change s { s with sets := s.sets.erase id }

theorem change_answer (r : Request) (s : Store) : Change s (answer r s).2 := by
  cases r with
  | readStorage ns name => exact .kept
  | readSet ns name => exact .kept
  | patchStatus ns name status =>
    rw [answer, patchStorage]
    split
    next => exact .kept
    next => exact .putStorage _ _
  | annotate ns name notes =>
    rw [answer, patchStorage]
    split
    next => exact .kept
    next => exact .putStorage _ _
  | createSet ns body =>
    simp only [answer, createSet]
    split
    next => exact .kept
    next => exact .putSet _ _
  | patchSet ns name patch =>
    rw [answer, patchSet]
    split
    next => exact .kept
    next =>
      split
      next => exact .kept
      next => exact .putSet _ _

theorem change_after (s : Store) (act : Act) : Change s (s.after act) := by
  cases act with
  | putStorage object => exact .putStorage _ _
  | putSet object => exact .putSet _ _
  | editStorage id edits =>
    rw [after]
    split
    next => exact .putStorage _ _
    next => exact .kept
  | editSet id edits =>
    rw [after]
    split
    next => exact .putSet _ _
    next => exact .kept
  | deleteStorage id => exact .deleteStorage id
  | deleteSet id => exact .deleteSet id

theorem Change.sound (h : Change s s') (sound : s.Sound) : s'.Sound := by
  cases h with
  | kept => exact sound
  | putStorage id object => exact sound
  | putSet id object =>
    intro i stored present
    rw [set?_putSet] at present
    split at present
    next =>
      obtain rfl := Option.some.inj present
      exact ⟨s.version + 1, Nat.le_refl _, versionIn_stamped _ _⟩
    next =>
      obtain ⟨n, given, eq⟩ := sound i stored present
      exact ⟨n, Nat.le_succ_of_le given, eq⟩
  | deleteStorage id => exact sound
  | deleteSet id =>
    intro i stored present
    rw [set?, Objects.get?_erase] at present
    split at present
    next => cases present
    next => exact sound i stored present

theorem Change.evolves (h : Change s s') : Evolves set? Issued s s' := by
  cases h with
  | kept => exact .refl s
  | putStorage id object => exact ⟨fun _ given => given, fun _ => Or.inl rfl⟩
  | putSet id object =>
    constructor
    · rintro version ⟨n, given, eq⟩
      exact ⟨n, Nat.le_succ_of_le given, eq⟩
    · intro i
      rw [set?_putSet]
      split
      next =>
        -- Versions are counted, so the new one is beyond all that were given.
        right
        rintro stored eq version ⟨n, given, rfl⟩
        obtain rfl := Option.some.inj eq
        rw [versionIn_stamped, Bool.eq_false_iff]
        intro equal
        have := versionText_same equal
        omega
      next => exact Or.inl rfl
  | deleteStorage id => exact ⟨fun _ given => given, fun _ => Or.inl rfl⟩
  | deleteSet id =>
    constructor
    · exact fun _ given => given
    · intro i
      rw [set?, Objects.get?_erase]
      split
      next =>
        right
        intro stored no
        cases no
      next => exact Or.inl rfl

end Store

/-- A cluster in memory whose StatefulSets have versions that were given. -/
structure SoundStore where
  store : Store
  sound : store.Sound

namespace SoundStore

def answer (request : Request) (s : SoundStore) : Reply × SoundStore :=
  ((Store.answer request s.store).1,
    ⟨(Store.answer request s.store).2, (Store.change_answer request s.store).sound s.sound⟩)

def after (s : SoundStore) (act : Store.Act) : SoundStore :=
  ⟨s.store.after act, (Store.change_after s.store act).sound s.sound⟩

def set? (s : SoundStore) (id : Identity) : Option Json :=
  s.store.set? id

def Issued (s : SoundStore) (version : Json) : Prop :=
  s.store.Issued version

theorem answer_eq {request : Request} {s : SoundStore} {reply : Reply}
    (h : Store.answer request s.store = (reply, s.store)) : answer request s = (reply, s) := by
  obtain ⟨store, sound⟩ := s
  simp only [answer, h]

theorem evolves_after (s : SoundStore) (act : Store.Act) :
    Evolves set? Issued s (s.after act) :=
  have evolves := (Store.change_after s.store act).evolves
  ⟨evolves.keeps, evolves.fresh⟩

theorem answer_stale {s : SoundStore} {ns name patch version object : Json}
    (present : s.set? ⟨ns, name⟩ = some object)
    (carried : patch.path? ["metadata", "resourceVersion"] = some version)
    (truthy : version.truthy = true) (different : version.same (versionIn object) = false) :
    answer (.patchSet ns name patch) s =
      (.error (.conflict "the object has been modified"), s) := by
  have stale : Store.isStale patch object = true := by
    unfold Store.isStale
    rw [carried]
    cases version with
    | null => cases truthy
    | _ => exact congrArg not different
  exact answer_eq (Store.answer_refused present stale)

theorem versioned : Versioned answer set? Issued where
  readStorage _ _ _ := rfl
  readSet _ _ _ := rfl
  found ns name s object h := Store.ok_of_readSet h
  given s := s.sound
  stale := by
    intro ns name patch s version object present carried truthy different
    exact ⟨_, answer_stale present carried truthy different⟩
  absent := by
    intro ns name patch s missing
    rw [answer_eq (Store.answer_missing missing)]
  taken := by
    intro ns body s id object written present
    exact ⟨_, answer_eq (Store.answer_taken written present)⟩

theorem truthy_of_readSet {s : SoundStore} {ns name live : Json}
    (h : (answer (.readSet ns name) s).1 = .ok live) : (versionIn live).truthy = true := by
  obtain ⟨n, _, eq⟩ := s.sound _ _ (versioned.found ns name s live h)
  rw [eq]
  exact Store.versionText_truthy n

end SoundStore

end StorageController
