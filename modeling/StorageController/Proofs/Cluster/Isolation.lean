import StorageController.Proofs.Cluster.Apart

namespace StorageController

open Json

variable {α β δ σ ω : Type} {answer : Request → σ → Reply × σ}
  {storage? set? : σ → Identity → Option Json} {prospects : σ → Identity → ω} {i j : Identity}

/-- Two programs that take turns at a server, until both have ended. The requests are those of the
one and of the other, in the order in which they were answered. -/
inductive Interleaving (answer : Request → σ → Reply × σ) :
    Calls α → Calls β → σ → List (Request ⊕ Request) → α → β → σ → Prop
  | done (a : α) (b : β) (s : σ) : Interleaving answer (.ret a) (.ret b) s [] a b s
  | left {r : Request} {next : Reply → Calls α} {right : Calls β} {s last : σ}
      {requests : List (Request ⊕ Request)} {a : α} {b : β}
      (further : Interleaving answer (next (answer r s).1) right (answer r s).2 requests a b last) :
      Interleaving answer (.call r next) right s (.inl r :: requests) a b last
  | right {r : Request} {next : Reply → Calls β} {left : Calls α} {s last : σ}
      {requests : List (Request ⊕ Request)} {a : α} {b : β}
      (further : Interleaving answer left (next (answer r s).1) (answer r s).2 requests a b last) :
      Interleaving answer left (.call r next) s (.inr r :: requests) a b last

/-- What is left of a program after some turns, beside what is left of it when it runs alone. -/
def Abreast (storage? set? : σ → Identity → Option Json) (prospects : σ → Identity → ω)
    (i : Identity) (program : Calls α) (s : σ) (alone : Calls α) (s' : σ) : Prop :=
  SameAt storage? set? prospects i s s' ∧
    ∃ reading, Calls.Like i (fun _ => Eq) reading program alone ∧
      ∀ live live', reading = some (live, live') → set? s i = some live ∧ set? s' i = some live'

namespace Abreast

variable {program alone : Calls α} {s s' : σ}

theorem ret {a : α} (h : Abreast storage? set? prospects i (.ret a) s alone s') :
    alone = .ret a := by
  obtain ⟨_, reading, like, _⟩ := h
  cases like with
  | ret ended => rw [ended]

/-- A turn of the program itself is one of its own identity, and goes as it does alone. -/
theorem step (server : Apart answer storage? set? prospects) {r : Request}
    {next : Reply → Calls α}
    (h : Abreast storage? set? prospects i (.call r next) s alone s') :
    r.identity = i ∧ ∃ r' next', alone = .call r' next' ∧
      Abreast storage? set? prospects i (next (answer r s).1) (answer r s).2
        (next' (answer r' s').1) (answer r' s').2 := by
  obtain ⟨same, reading, like, read⟩ := h
  cases like with
  | @call _ _ r' _ next' asked further =>
    have mine : r.identity = i := by
      cases asked with
      | same own plain => exact own
      | patch fields => rfl
    obtain ⟨replies, after⟩ : Agree Renumbered (answer r s).1 (answer r' s').1 ∧
        SameAt storage? set? prospects i (answer r s).2 (answer r' s').2 := by
      cases asked with
      | same own plain =>
        subst own
        exact server.alike r s s' plain same
      | @patch live live' fields =>
        -- Each run patches what it has read, which is still there: nobody else writes here.
        obtain ⟨present, present'⟩ := read live live' rfl
        exact server.patch i fields s s' live live' present present' same
    refine ⟨mine, r', next', rfl, after, _, further _ _ replies ?_, ?_⟩
    · rintro ns name resource rfl found
      have named := server.named _ _ _ (server.readStorage ns name s resource found)
      exact mine ▸ named
    · intro live live' just
      obtain ⟨⟨ns, name, rfl⟩, found, found'⟩ := Reading.of_after just
      cases asked with
      | same own plain =>
        subst own
        exact ⟨server.readSet ns name s live found, server.readSet ns name s' live' found'⟩

theorem elsewhere (server : Apart answer storage? set? prospects) {r : Request}
    (other : r.identity ≠ i) (h : Abreast storage? set? prospects i program s alone s') :
    Abreast storage? set? prospects i program (answer r s).2 alone s' := by
  obtain ⟨same, reading, like, read⟩ := h
  obtain ⟨storage, set, due⟩ := server.elsewhere r s i other
  refine ⟨⟨storage ▸ same.storage, set ▸ same.set, due ▸ same.prospects⟩, reading, like, ?_⟩
  rw [set]
  exact read

end Abreast

/-- The requests of a program are about its own identity, and it ends as it does alone: with the same
result, and with the same objects there, up to their versions. -/
structure Undisturbed (answer : Request → σ → Reply × σ)
    (storage? set? : σ → Identity → Option Json) (i : Identity) (program : Calls α) (s : σ)
    (requests : List Request) (result : α) (last : σ) : Prop where
  own : ∀ r ∈ requests, r.identity = i
  result : result = (program.run answer s).1
  storage : Option.Rel Renumbered (storage? last i) (storage? (program.run answer s).2.1 i)
  set : Option.Rel Renumbered (set? last i) (set? (program.run answer s).2.1 i)

theorem undisturbed_of_abreast (server : Apart answer storage? set? prospects) (distinct : i ≠ j)
    {left left' : Calls α} {right right' : Calls β} {s s' s'' last : σ}
    {requests : List (Request ⊕ Request)} {a : α} {b : β}
    (h : Interleaving answer left right s requests a b last)
    (leftAbreast : Abreast storage? set? prospects i left s left' s')
    (rightAbreast : Abreast storage? set? prospects j right s right' s'') :
    Undisturbed answer storage? set? i left' s' (requests.filterMap Sum.getLeft?) a last ∧
      Undisturbed answer storage? set? j right' s'' (requests.filterMap Sum.getRight?) b last := by
  -- Each side carries its own solitary run along; a turn of one is elsewhere for the other.
  induction h generalizing left' right' s' s'' with
  | done a b s =>
    obtain rfl := leftAbreast.ret
    obtain rfl := rightAbreast.ret
    exact ⟨⟨by simp, rfl, leftAbreast.1.storage, leftAbreast.1.set⟩,
      ⟨by simp, rfl, rightAbreast.1.storage, rightAbreast.1.set⟩⟩
  | left further ih =>
    obtain ⟨own, r', next', rfl, after⟩ := leftAbreast.step server
    have kept := rightAbreast.elsewhere server (own ▸ distinct)
    obtain ⟨ends, others⟩ := ih after kept
    exact ⟨⟨List.forall_mem_cons.mpr ⟨own, ends.own⟩, ends.result, ends.storage, ends.set⟩, others⟩
  | right further ih =>
    obtain ⟨own, r', next', rfl, after⟩ := rightAbreast.step server
    have kept := leftAbreast.elsewhere server (own ▸ distinct.symm)
    obtain ⟨others, ends⟩ := ih kept after
    exact ⟨others, ⟨List.forall_mem_cons.mpr ⟨own, ends.own⟩, ends.result, ends.storage, ends.set⟩⟩

section

variable [Redaction.VisitingOrder]

theorem abreast_self (i : Identity) (settings : Settings δ) (c : Context) (s : σ) :
    Abreast storage? set? prospects i ((Pass.reconcile settings i.ns i.name).start c) s
      ((Pass.reconcile settings i.ns i.name).start c) s := by
  refine ⟨.refl i s, none, Pass.like_start i settings c, ?_⟩
  intro live live' no
  cases no

/-- Passes over two identities do not disturb each other, in whatever order they take turns. -/
theorem identities_isolated (server : Apart answer storage? set? prospects) (distinct : i ≠ j)
    (settings settings' : Settings δ) (c c' : Context) {s last : σ}
    {requests : List (Request ⊕ Request)} {a b : Except Fault (Directive δ) × Context}
    (h : Interleaving answer ((Pass.reconcile settings i.ns i.name).start c)
      ((Pass.reconcile settings' j.ns j.name).start c') s requests a b last) :
    Undisturbed answer storage? set? i ((Pass.reconcile settings i.ns i.name).start c) s
        (requests.filterMap Sum.getLeft?) a last ∧
      Undisturbed answer storage? set? j ((Pass.reconcile settings' j.ns j.name).start c') s
        (requests.filterMap Sum.getRight?) b last :=
  undisturbed_of_abreast server distinct h (abreast_self i settings c s) (abreast_self j settings' c' s)

end

namespace Neighbours

open Redaction.TokenFirst

def settings : Settings Nat :=
  ⟨8080, 30, 4, 1, 60, 2, 5, 300, ""⟩

def identity (name : String) : Identity :=
  ⟨"swift", name⟩

def resource (name : String) : Json :=
  .obj [("metadata", .obj [("namespace", "swift"), ("name", name)])]

/-- Two storage resources, the second with a StatefulSet that says nothing but its name. -/
def store : Store :=
  (((({} : Store).putStorage (identity "first") (resource "first")).putStorage (identity "second")
    (resource "second")).putSet (identity "second") (resource "second"))

theorem sound : store.Sound := by
  have empty : ({} : Store).Sound := by
    intro i object present
    cases present
  exact (Store.Change.putSet _ _).sound
    ((Store.Change.putStorage _ _).sound ((Store.Change.putStorage _ _).sound empty))

theorem named : store.AllNamed := by
  intro i object present
  change (Store.putStorage _ _ _).storage? i = some object at present
  rw [Store.storage?_putStorage, Store.storage?_putStorage] at present
  split at present
  next eq =>
    cases present
    exact eq ▸ ⟨rfl, rfl⟩
  next =>
    split at present
    next eq =>
      cases present
      exact eq ▸ ⟨rfl, rfl⟩
    next => cases present

def shared : Shared :=
  ⟨store, sound, named, fun _ => []⟩

def pass (name : String) : Calls (Except Fault (Directive Nat) × Context) :=
  (Pass.reconcile settings (identity name).ns (identity name).name).start ⟨0, {}, .off, [], []⟩

end Neighbours

open Neighbours Redaction.TokenFirst in
/-- The passes over two resources take turns. Without the first one the StatefulSet of the second has
another version, and nothing else is different. -/
theorem identities_isolated_neighbours :
    ∃ requests a b last,
      Interleaving Shared.answer (pass "first") (pass "second") shared requests a b last ∧
      requests.map Sum.isLeft = [true, false, true, false, true, false, true, false] ∧
      Undisturbed Shared.answer Shared.storage? Shared.set? (identity "first") (pass "first") shared
        (requests.filterMap Sum.getLeft?) a last ∧
      Undisturbed Shared.answer Shared.storage? Shared.set? (identity "second") (pass "second")
        shared (requests.filterMap Sum.getRight?) b last ∧
      (last.set? (identity "second")).map versionIn = some "3" ∧
      (((pass "second").run Shared.answer shared).2.1.set? (identity "second")).map versionIn =
        some "2" := by
  have turns : ∃ requests a b last,
      Interleaving Shared.answer (pass "first") (pass "second") shared requests a b last ∧
      requests.map Sum.isLeft = [true, false, true, false, true, false, true, false] ∧
      (last.set? (identity "second")).map versionIn = some "3" :=
    ⟨_, _, _, _, .left (.right (.left (.right (.left (.right (.left (.right (.done _ _ _)))))))), rfl,
      rfl⟩
  obtain ⟨requests, a, b, last, interleaved, order, version⟩ := turns
  obtain ⟨first, second⟩ := identities_isolated Shared.apart (by decide) settings settings _ _
    interleaved
  exact ⟨requests, a, b, last, interleaved, order, first, second, version, rfl⟩

end StorageController
