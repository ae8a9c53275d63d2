import StorageController.Proofs.Cluster.SoundStore
import StorageController.Proofs.Pass.Asks
import StorageController.Proofs.StatefulSet.Patch

namespace StorageController

open Json

variable {δ σ : Type} {answer : Request → σ → Reply × σ} {set? : σ → Identity → Option Json}
  {issued : σ → Json → Prop} {t : Topology} {owner : Json}

/-- The write that follows the read of a StatefulSet: a creation if there was none, else a patch that
is conditional on the version read. -/
inductive Guarded (t : Topology) : Reply → Request → Prop
  | creation {message : String} (reference : Json) :
      Guarded t (.error (.notFound message)) (.createSet t.ns (t.body reference))
  | patch {live patch : Json}
      (version : (versionIn live).truthy = true →
        patch.path? ["metadata", "resourceVersion"] = some (versionIn live)) :
      Guarded t (.ok live) (.patchSet t.ns t.name patch)

theorem Guarded.written {found : Reply} {write : Request} (h : Guarded t found write) :
    write.written? = some ⟨t.ns, t.name⟩ := by
  cases h <;> rfl

theorem versionIn_of_versionOf {live version : Json} (h : Pass.versionOf live = .ok version)
    (truthy : (versionIn live).truthy = true) : version = versionIn live := by
  cases found : live.path? ["metadata", "resourceVersion"] with
  | none =>
    rw [versionIn, found] at truthy
    cases truthy
  | some value =>
    obtain ⟨inside, hm, hv⟩ := Option.bind_eq_some_iff.mp found
    replace hv : inside.get? "resourceVersion" = some value := by simpa [path?] using hv
    obtain ⟨fields, rfl, mem⟩ := eq_obj_of_get? hm
    obtain ⟨metadata, rfl, memV⟩ := eq_obj_of_get? hv
    cases (versionOf_obj mem).symm.trans h
    rw [versionIn, found, memV]

/-- Applying reads the StatefulSet once and writes it at most once. -/
theorem Application.guarded {tr : List Exchange} {outcome : Except Fault Applied}
    (way : Application t owner tr outcome) :
    (∃ found, tr = [⟨.readSet t.ns t.name, found⟩]) ∨
    ∃ found write reply, Guarded t found write ∧
      tr = [⟨.readSet t.ns t.name, found⟩, ⟨write, reply⟩] ∧
      ∀ message, reply = .error (.conflict message) →
        ∃ attempt, outcome = .ok (.conflicted (.conflict message) attempt) := by
  cases way with
  | creating owned =>
    refine Or.inr ⟨_, _, _, .creation _, rfl, ?_⟩
    rintro message rfl
    exact ⟨_, rfl⟩
  | @patching live version fields reply differ versioned =>
    refine Or.inr ⟨_, _, _, .patch ?_, rfl, ?_⟩
    · intro truthy
      obtain rfl := versionIn_of_versionOf versioned truthy
      rw [guarded_eq _ truthy]
      simp [path?, get?, lookup_setField]
    · rintro message rfl
      exact ⟨_, rfl⟩
  | _ => exact Or.inl ⟨_, rfl⟩

/-- A write is refused as a conflict, without effect, if the object that is there is not the one that
was read. -/
theorem Guarded.refused {found : Reply} {write : Request} {object : Json} {s s' : σ}
    (guarded : Guarded t found write) (cluster : Versioned answer set? issued)
    (read : (answer (.readSet t.ns t.name) s).1 = found) (evolves : Evolves set? issued s s')
    (versions : ∀ live, found = .ok live → (versionIn live).truthy = true)
    (present : set? s' ⟨t.ns, t.name⟩ = some object) (changed : found ≠ .ok object) :
    ∃ message, answer write s' = (.error (.conflict message), s') := by
  cases guarded with
  | creation reference => exact cluster.taken _ _ _ _ _ rfl present
  | @patch live patch version =>
    have before := cluster.found _ _ _ _ read
    -- A StatefulSet that was recreated has a fresh version too, so it is not taken for the one read.
    rcases evolves.same_or_stale (cluster.given _ _ _ before) before with
      same | absent | ⟨other, there, stale⟩
    · cases present.symm.trans same
      exact absurd rfl changed
    · cases present.symm.trans absent
    · have truthy := versions live rfl
      exact cluster.stale _ _ _ _ _ _ there (version truthy) truthy stale

theorem Guarded.effect {found : Reply} {ns name patch : Json} {s s' : σ}
    (guarded : Guarded t found (.patchSet ns name patch))
    (cluster : Versioned answer set? issued)
    (read : (answer (.readSet t.ns t.name) s).1 = found) (evolves : Evolves set? issued s s')
    (versions : ∀ live, found = .ok live → (versionIn live).truthy = true)
    (effect : (answer (.patchSet ns name patch) s').2 ≠ s') :
    ns = t.ns ∧ name = t.name ∧ ∃ live, found = .ok live ∧ set? s' ⟨ns, name⟩ = some live := by
  cases guarded with
  | @patch live patch version =>
    have before := cluster.found _ _ _ _ read
    refine ⟨rfl, rfl, live, rfl, ?_⟩
    rcases evolves.same_or_stale (cluster.given _ _ _ before) before with
      same | absent | ⟨other, there, stale⟩
    · exact same
    · exact absurd (cluster.absent _ _ _ _ absent) effect
    · have truthy := versions live rfl
      obtain ⟨message, refused⟩ := cluster.stale _ _ _ _ _ _ there (version truthy) truthy stale
      exact absurd (congrArg Prod.snd refused) effect

theorem written?_of_isStatus {r : Request} (h : r.IsStatus) : r.written? = none := by
  obtain ⟨_, _, _, rfl⟩ := h
  rfl

/-- The turns of a pass that writes a StatefulSet: it reads the resource and the StatefulSet, writes
what it has to, and goes on with the status, but not after a conflict. -/
structure Writing (answer : Request → σ → Reply × σ) (others : σ → σ → Prop) (s : Settings δ)
    (ns name : Json) (turns : List (Turn σ)) (outcome : Except Fault (Directive δ))
    (t : Topology) (write : Request) (b₀ b₁ b₂ : σ) (rest : List (Turn σ)) : Prop where
  turns_eq : turns = Turn.of answer (.readStorage ns name) b₀ ::
    Turn.of answer (.readSet t.ns t.name) b₁ :: Turn.of answer write b₂ :: rest
  between : others (answer (.readSet t.ns t.name) b₁).2 b₂
  guarded : Guarded t (answer (.readSet t.ns t.name) b₁).1 write
  statuses : ∀ turn ∈ rest, turn.exchange.request.IsStatus
  conflict : ∀ message, (answer write b₂).1 = .error (.conflict message) →
    rest = [] ∧ outcome = .ok (.requeueAfter s.conflictRequeueDelay)

theorem statuses_of_map {later : List (Turn σ)} {rest : List Exchange}
    (eq : later.map Turn.exchange = rest) (statuses : ∀ e ∈ rest, e.request.IsStatus) :
    ∀ turn ∈ later, turn.exchange.request.IsStatus := by
  subst eq
  intro turn ht
  exact statuses _ (List.mem_map_of_mem ht)

/-- A pass writes no StatefulSet, or it reads one and writes that one. -/
theorem writing_of_reconcile [Redaction.VisitingOrder] {others : σ → σ → Prop} {s : Settings δ}
    {ns name : Json} {c after : Context} {s₀ last : σ} {turns : List (Turn σ)}
    {outcome : Except Fault (Directive δ)} (run : Turns answer others s₀ turns last)
    (ends : (Pass.reconcile s ns name).Ends c (turns.map Turn.exchange) outcome after) :
    (∀ turn ∈ turns, turn.exchange.request.written? = none) ∨
      ∃ t write b₀ b₁ b₂ rest,
        Writing answer others s ns name turns outcome t write b₀ b₁ b₂ rest := by
  rcases ends.asks_of_reconcile with ⟨reply, rest, eq, statuses, _⟩ |
    ⟨resource, t, applying, applied, rest, eq, _, way, statuses, conflict, _⟩
  · obtain ⟨b₀, later, _, _, rfl, eq, run⟩ := run.uncons eq
    left
    intro turn ht
    rcases List.mem_cons.mp ht with rfl | ht
    · rfl
    · exact written?_of_isStatus (statuses_of_map eq statuses turn ht)
  obtain ⟨b₀, later, _, _, rfl, eq, run⟩ := run.uncons eq
  rcases way.guarded with ⟨found, rfl⟩ | ⟨found, write, reply, guarded, rfl, conflicts⟩
  · obtain ⟨b₁, later, _, _, rfl, eq, run⟩ := run.uncons eq
    left
    intro turn ht
    rcases List.mem_cons.mp ht with rfl | ht
    · rfl
    rcases List.mem_cons.mp ht with rfl | ht
    · rfl
    · exact written?_of_isStatus (statuses_of_map eq statuses turn ht)
  · obtain ⟨b₁, later, _, rfl, rfl, eq, run⟩ := run.uncons eq
    obtain ⟨b₂, later, between, rfl, rfl, eq, run⟩ := run.uncons eq
    refine Or.inr ⟨t, write, b₀, b₁, b₂, later, rfl, between, guarded,
      statuses_of_map eq statuses, ?_⟩
    intro message refused
    obtain ⟨attempt, same⟩ := conflicts message refused
    obtain ⟨rfl, requeue⟩ := conflict _ _ same
    exact ⟨List.map_eq_nil_iff.mp eq, requeue⟩

namespace Writing

variable {others : σ → σ → Prop} {s : Settings δ} {ns name : Json} {turns rest : List (Turn σ)}
  {outcome : Except Fault (Directive δ)} {write : Request} {b₀ b₁ b₂ : σ} {turn : Turn σ}

theorem cases (w : Writing answer others s ns name turns outcome t write b₀ b₁ b₂ rest)
    (h : turn ∈ turns) :
    turn = Turn.of answer (.readStorage ns name) b₀ ∨
      turn = Turn.of answer (.readSet t.ns t.name) b₁ ∨ turn = Turn.of answer write b₂ ∨
      turn.exchange.request.IsStatus := by
  rw [w.turns_eq] at h
  simp only [List.mem_cons] at h
  rcases h with first | second | third | inRest
  · exact Or.inl first
  · exact Or.inr (Or.inl second)
  · exact Or.inr (Or.inr (Or.inl third))
  · exact Or.inr (Or.inr (Or.inr (w.statuses turn inRest)))

theorem eq_of_written {id : Identity}
    (w : Writing answer others s ns name turns outcome t write b₀ b₁ b₂ rest) (h : turn ∈ turns)
    (written : turn.exchange.request.written? = some id) : turn = Turn.of answer write b₂ := by
  rcases w.cases h with rfl | rfl | rfl | status
  · cases written
  · cases written
  · rfl
  · rw [written?_of_isStatus status] at written
    cases written

theorem eq_of_read {id : Identity}
    (w : Writing answer others s ns name turns outcome t write b₀ b₁ b₂ rest) (h : turn ∈ turns)
    (read : turn.exchange.request = .readSet id.ns id.name) :
    turn = Turn.of answer (.readSet t.ns t.name) b₁ := by
  rcases w.cases h with rfl | rfl | rfl | ⟨_, _, _, status⟩
  · cases read
  · rfl
  · have same : write = .readSet id.ns id.name := read
    have written := w.guarded.written
    rw [same] at written
    cases written
  · rw [read] at status
    cases status

end Writing

/-- No update is lost: a patch of a pass has an effect only if the StatefulSet is the one that the pass
read, and if it is not, then the pass leaves everything as it is and asks for another one. -/
theorem no_lost_update [Redaction.VisitingOrder] {s : Settings δ} {ns name : Json}
    {c after : Context} {s₀ last : σ} {turns : List (Turn σ)} {outcome : Except Fault (Directive δ)}
    (cluster : Versioned answer set? issued)
    (run : Turns answer (Evolves set? issued) s₀ turns last)
    (ends : (Pass.reconcile s ns name).Ends c (turns.map Turn.exchange) outcome after)
    (versions : ∀ turn ∈ turns, ∀ ns name live,
      turn.exchange = ⟨.readSet ns name, .ok live⟩ → (versionIn live).truthy = true) :
    (∀ write ∈ turns, ∀ ns name patch, write.exchange.request = .patchSet ns name patch →
      write.after ≠ write.before →
      ∃ read ∈ turns, ∃ live, read.exchange = ⟨.readSet ns name, .ok live⟩ ∧
        set? write.before ⟨ns, name⟩ = some live) ∧
    (∀ read ∈ turns, ∀ write ∈ turns, ∀ id object,
      read.exchange.request = .readSet id.ns id.name →
      write.exchange.request.written? = some id → set? write.before id = some object →
      read.exchange.reply ≠ .ok object →
      (∀ turn ∈ turns, turn.after = turn.before ∧ ¬ turn.exchange.request.IsStatus) ∧
        outcome = .ok (.requeueAfter s.conflictRequeueDelay)) := by
  rcases writing_of_reconcile run ends with none | ⟨t, write, b₀, b₁, b₂, rest, w⟩
  · constructor
    · intro write hw ns name patch request
      have := none write hw
      rw [request] at this
      cases this
    · intro read _ write hw id object _ written
      rw [none write hw] at written
      cases written
  have unread : (answer (.readSet t.ns t.name) b₁).2 = b₁ := cluster.readSet _ _ _
  have evolves : Evolves set? issued b₁ b₂ := unread ▸ w.between
  have seen : ∀ live, (answer (.readSet t.ns t.name) b₁).1 = .ok live →
      (versionIn live).truthy = true := by
    intro live read
    refine versions (Turn.of answer (.readSet t.ns t.name) b₁) ?_ t.ns t.name live ?_
    · simp [w.turns_eq]
    · rw [← read]
      rfl
  constructor
  · intro turn ht ns name patch request effect
    have written : turn.exchange.request.written? = some ⟨ns, name⟩ := by rw [request]; rfl
    obtain rfl := w.eq_of_written ht written
    have same : write = .patchSet ns name patch := request
    subst same
    obtain ⟨rfl, rfl, live, found, present⟩ := w.guarded.effect cluster rfl evolves seen effect
    refine ⟨Turn.of answer (.readSet t.ns t.name) b₁, by simp [w.turns_eq], live, ?_, present⟩
    rw [← found]
    rfl
  · intro read hr turn ht id object request written present changed
    obtain rfl := w.eq_of_written ht written
    obtain rfl := w.eq_of_read hr request
    obtain ⟨ns, name⟩ := id
    obtain ⟨rfl, rfl⟩ := Request.readSet.inj request
    obtain ⟨message, refused⟩ := w.guarded.refused cluster rfl evolves seen present changed
    obtain ⟨none, requeue⟩ := w.conflict message (congrArg Prod.fst refused)
    refine ⟨?_, requeue⟩
    intro turn ht
    rw [w.turns_eq, none] at ht
    simp only [List.mem_cons, List.not_mem_nil, or_false] at ht
    rcases ht with rfl | rfl | rfl
    · exact ⟨cluster.readStorage _ _ _, by rintro ⟨_, _, _, no⟩; cases no⟩
    · exact ⟨unread, by rintro ⟨_, _, _, no⟩; cases no⟩
    · refine ⟨congrArg Prod.snd refused, ?_⟩
      intro status
      rw [written?_of_isStatus status] at written
      cases written

open Redaction.TokenFirst in
/-- Somebody edits the StatefulSet between the read and the patch. -/
theorem no_lost_update_edited :
    let s : Settings Nat := ⟨8080, 30, 4, 1, 60, 2, 5, 300, ""⟩
    let id : Identity := ⟨"swift", "storage"⟩
    let resource : Json := .obj [("metadata", .obj [("namespace", "swift"), ("name", "storage")])]
    let live : Json := .obj [("metadata", .obj [("resourceVersion", "1")]), ("spec", .obj [])]
    let edit : Store.Act := .editSet id [⟨[.field "spec", .field "replicas"], some (.int 9)⟩]
    ∃ (before : SoundStore) (patch : Json) (after : Context),
      before.store = ⟨[(id, resource)], [(id, live)], 1⟩ ∧
      let turns := [Turn.of SoundStore.answer (.readStorage "swift" "storage") before,
        Turn.of SoundStore.answer (.readSet "swift" "storage") before,
        Turn.of SoundStore.answer (.patchSet "swift" "storage" patch) (before.after edit)]
      (Pass.reconcile s "swift" "storage").Ends ⟨0, {}, .off, [], []⟩ (turns.map Turn.exchange)
        (.ok (.requeueAfter 5)) after ∧
      ∀ turn ∈ turns, turn.after = turn.before ∧ ¬ turn.exchange.request.IsStatus := by
  intro s id resource live edit
  have sound : Store.Sound ⟨[(id, resource)], [(id, live)], 1⟩ := by
    intro i object present
    rw [Store.set?, Objects.get?, List.lookup_cons] at present
    split at present
    next =>
      cases present
      exact ⟨1, Nat.le_refl 1, rfl⟩
    next => cases present
  let before : SoundStore := ⟨_, sound⟩
  obtain ⟨patch, after, version, ends⟩ : ∃ patch after,
      patch.path? ["metadata", "resourceVersion"] = some (.str "1") ∧
      (Pass.reconcile s "swift" "storage").Ends ⟨0, {}, .off, [], []⟩
        [⟨.readStorage "swift" "storage", .ok resource⟩, ⟨.readSet "swift" "storage", .ok live⟩,
          ⟨.patchSet "swift" "storage" patch, .error (.conflict "the object has been modified")⟩]
        (.ok (.requeueAfter 5)) after := by
    refine ⟨_, _, ?_, .call (.call (.call (.ret _)))⟩
    rfl
  refine ⟨before, patch, after, rfl, ?_⟩
  intro turns
  have refused : SoundStore.answer (.patchSet "swift" "storage" patch) (before.after edit) =
      (.error (.conflict "the object has been modified"), before.after edit) := by
    refine SoundStore.answer_stale rfl version rfl ?_
    rw [Store.versionIn_stamped, Bool.eq_false_iff]
    intro equal
    cases Store.versionText_same (m := 1) equal
  have exchanges : turns.map Turn.exchange =
      [⟨.readStorage "swift" "storage", .ok resource⟩, ⟨.readSet "swift" "storage", .ok live⟩,
        ⟨.patchSet "swift" "storage" patch, .error (.conflict "the object has been modified")⟩] := by
    simp only [turns, List.map_cons, List.map_nil, Turn.of, refused]
    rfl
  rw [← exchanges] at ends
  refine ⟨ends, ?_⟩
  have run : Turns SoundStore.answer (Evolves SoundStore.set? SoundStore.Issued) before turns _ :=
    .turn (.refl _) (.turn (.refl _) (.turn (before.evolves_after edit) (.done (.refl _))))
  have versions : ∀ turn ∈ turns, ∀ ns name live,
      turn.exchange = ⟨.readSet ns name, .ok live⟩ → (versionIn live).truthy = true := by
    intro turn ht ns name live read
    have answered := run.of_mem turn ht
    rw [read] at answered
    rw [answered] at read
    exact SoundStore.truthy_of_readSet (congrArg Exchange.reply read)
  have kept := (no_lost_update SoundStore.versioned run ends versions).2
  refine (kept _ (.tail _ (.head _)) _ (.tail _ (.tail _ (.head _))) id _ rfl rfl rfl ?_).1
  intro same
  have equal : Store.versionText 1 = versionIn (Store.stamped 2 _) :=
    congrArg versionIn (Except.ok.inj same)
  rw [Store.versionIn_stamped] at equal
  cases Store.versionText_injective equal

end StorageController
