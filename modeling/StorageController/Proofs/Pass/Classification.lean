import StorageController.Proofs.Cluster.Turns
import StorageController.Proofs.Pass.Reconcile

namespace StorageController

variable {δ σ : Type}

/-- The request that follows the read of a StatefulSet: a missing one is created, an existing one
patched. -/
def SetWrite (t : Topology) : Reply → Request → Prop
  | .error (.notFound _), .createSet ns _ => ns = t.ns
  | .ok _, .patchSet ns name _ => ns = t.ns ∧ name = t.name
  | _, _ => False

/-- The exchanges of a pass, with the directive that they lead to. -/
inductive Classified (s : Settings δ) (ns name : Json) : List Exchange → Directive δ → Prop
  | missing {message : String} :
      Classified s ns name [⟨.readStorage ns name, .error (.notFound message)⟩] .done
  | unread {fault : Fault} (present : ∀ message, fault ≠ .notFound message) :
      Classified s ns name [⟨.readStorage ns name, .error fault⟩] (.requeueError fault)
  | deleting {resource : Json} (leaving : deleting resource = true) :
      Classified s ns name [⟨.readStorage ns name, .ok resource⟩] .done
  | malformed {resource status : Json} {message : String} {reply : Reply}
      (staying : deleting resource = false)
      (rejected : Topology.ofResource resource = .error (.invalid message)) :
      Classified s ns name
        [⟨.readStorage ns name, .ok resource⟩, ⟨statusRequest resource status, reply⟩]
        (.requeueError (some (.invalid message)))
  | conflicted {t : Topology} {resource : Json} {found : Reply} {write : Request} {message : String}
      (staying : deleting resource = false) (accepted : Topology.ofResource resource = .ok t)
      (writes : SetWrite t found write) :
      Classified s ns name
        [⟨.readStorage ns name, .ok resource⟩, ⟨.readSet t.ns t.name, found⟩,
         ⟨write, .error (.conflict message)⟩]
        (.requeueAfter s.conflictRequeueDelay)
  | unreadSet {t : Topology} {resource status : Json} {fault : Fault} {reply : Reply}
      (staying : deleting resource = false) (accepted : Topology.ofResource resource = .ok t)
      (present : ∀ message, fault ≠ .notFound message) :
      Classified s ns name
        [⟨.readStorage ns name, .ok resource⟩, ⟨.readSet t.ns t.name, .error fault⟩,
         ⟨statusRequest resource status, reply⟩]
        (.requeueError fault)
  | refused {t : Topology} {resource status : Json} {found reply : Reply} {write : Request}
      {fault : Fault}
      (staying : deleting resource = false) (accepted : Topology.ofResource resource = .ok t)
      (writes : SetWrite t found write) (lost : ∀ message, fault ≠ .conflict message) :
      Classified s ns name
        [⟨.readStorage ns name, .ok resource⟩, ⟨.readSet t.ns t.name, found⟩,
         ⟨write, .error fault⟩, ⟨statusRequest resource status, reply⟩]
        (.requeueError fault)
  | unchanged {t : Topology} {resource live status : Json} {reply : Reply}
      (staying : deleting resource = false) (accepted : Topology.ofResource resource = .ok t)
      (same : Managed.patch? t.manifest live = none) :
      Classified s ns name
        [⟨.readStorage ns name, .ok resource⟩, ⟨.readSet t.ns t.name, .ok live⟩,
         ⟨statusRequest resource status, reply⟩]
        (Directive.done.afterStatus reply)
  | written {t : Topology} {resource object status : Json} {found reply : Reply}
      {write : Request}
      (staying : deleting resource = false) (accepted : Topology.ofResource resource = .ok t)
      (writes : SetWrite t found write) :
      Classified s ns name
        [⟨.readStorage ns name, .ok resource⟩, ⟨.readSet t.ns t.name, found⟩,
         ⟨write, .ok object⟩, ⟨statusRequest resource status, reply⟩]
        (Directive.done.afterStatus reply)

inductive Applied.Answered (applied : Applied) : Reply → Prop
  | done {object : Json} (well : applied.fault? = none) : Answered applied (.ok object)
  | conflicted {message : String} {attempt : Option (Json × Json)}
      (eq : applied = .conflicted (.conflict message) attempt) :
      Answered applied (.error (.conflict message))
  | failed {fault : Fault} {attempt : Option (Json × Json)}
      (lost : ∀ message, fault ≠ .conflict message) (eq : applied = .failed fault attempt) :
      Answered applied (.error fault)

theorem answered_ofWrite {done : Json → Applied} {attempt : Option (Json × Json)} {reply : Reply}
    {applied : Applied} (well : ∀ object, (done object).fault? = none)
    (h : Applied.ofWrite done attempt reply = .ok applied) : applied.Answered reply := by
  rcases reply with fault | object
  · cases fault with
    | conflict message =>
      cases h
      exact .conflicted rfl
    | operator | notFound | transport | invalid =>
      cases h
      exact .failed (by simp) rfl
    | _ => cases h
  · cases h
    exact .done (well object)

theorem Application.of_ok {t : Topology} {owner : Json} {tr : List Exchange} {applied : Applied}
    (way : Application t owner tr (.ok applied)) :
    (∃ live, Managed.patch? t.manifest live = none ∧ applied = .unchanged live ∧
      tr = [⟨.readSet t.ns t.name, .ok live⟩]) ∨
    (∃ fault, (∀ message, fault ≠ .notFound message) ∧ applied = .failed fault none ∧
      tr = [⟨.readSet t.ns t.name, .error fault⟩]) ∨
    ∃ found write reply, SetWrite t found write ∧ applied.Answered reply ∧
      tr = [⟨.readSet t.ns t.name, found⟩, ⟨write, reply⟩] := by
  generalize eq : Except.ok applied = outcome at way
  cases way with
  | @unread fault present =>
    unfold Applied.ofFault at eq
    split at eq
    · cases eq
      exact Or.inr (Or.inl ⟨fault, present, rfl, rfl⟩)
    · cases eq
  | unowned owned => cases eq
  | creating owned =>
    refine Or.inr (Or.inr ⟨_, _, _, ?_, answered_ofWrite (fun _ => rfl) eq.symm, rfl⟩)
    exact rfl
  | @unchanged live same =>
    cases eq
    exact Or.inl ⟨live, same, rfl, rfl⟩
  | unversioned differ versioned => cases eq
  | patching differ versioned =>
    refine Or.inr (Or.inr ⟨_, _, _, ?_, answered_ofWrite (fun _ => rfl) eq.symm, rfl⟩)
    exact ⟨rfl, rfl⟩

section

variable [Redaction.VisitingOrder]

theorem classified_of_round {s : Settings δ} {ns name : Json} {clock : Clock} {tr : List Exchange}
    {applied? : Option Applied} {directive : Directive δ}
    (h : Round s ns name clock tr applied? directive) : Classified s ns name tr directive := by
  cases h with
  | missing => exact .missing
  | unread present => exact .unread present
  | deleting leaving => exact .deleting leaving
  | malformed staying rejected _ => exact .malformed staying rejected
  | conflicted staying accepted way =>
    rcases way.of_ok with ⟨_, _, no, _⟩ | ⟨_, _, no, _⟩ | ⟨found, write, reply, writes, answer, rfl⟩
    · cases no
    · cases no
    · cases answer with
      | done well => cases well
      | conflicted eq => exact .conflicted staying accepted writes
      | failed lost eq => cases eq
  | failed staying accepted way _ =>
    rcases way.of_ok with ⟨_, _, no, _⟩ | ⟨_, present, eq, rfl⟩ |
      ⟨found, write, reply, writes, answer, rfl⟩
    · cases no
    · cases eq
      exact .unreadSet staying accepted present
    · cases answer with
      | done well => cases well
      | conflicted eq => cases eq
      | failed lost eq =>
        cases eq
        exact .refused staying accepted writes lost
  | applied staying accepted way well _ =>
    rcases way.of_ok with ⟨_, same, _, rfl⟩ | ⟨_, _, rfl, _⟩ |
      ⟨found, write, reply, writes, answer, rfl⟩
    · exact .unchanged staying accepted same
    · cases well
    · cases answer with
      | done _ => exact .written staying accepted writes
      | conflicted eq => subst eq; cases well
      | failed lost eq => subst eq; cases well

/-- A pass fails never, and its directive is the one that the replies call for. -/
theorem reconcile_classified (answer : Request → σ → Reply × σ) (state : σ) (s : Settings δ)
    (ns name : Json) (c : Context)
    (shaped : ∀ turn ∈ ((Pass.reconcile s ns name).start c).turns answer state,
      turn.exchange.Shaped) :
    ∃ directive after,
      (((Pass.reconcile s ns name).start c).run answer state).1 = (.ok directive, after) ∧
      Classified s ns name
        ((((Pass.reconcile s ns name).start c).turns answer state).map Turn.exchange)
        directive := by
  have replies : ∀ e ∈ (((Pass.reconcile s ns name).start c).turns answer state).map Turn.exchange,
      e.Shaped := by
    simpa using shaped
  have ends := Pass.ends_run answer (Pass.reconcile s ns name) c state
  obtain ⟨_, directive, ended, round, _⟩ := ends.of_reconcile replies
  exact ⟨directive, _, Prod.ext ended rfl, classified_of_round round⟩

end

open Redaction.TokenFirst in
theorem reconcile_classified_missing_set :
    let s : Settings Nat := ⟨8080, 30, 4, 1, 60, 2, 5, 300, ""⟩
    let c : Context := ⟨0, {}, .off, [], []⟩
    let resource : Json := .obj [("metadata", .obj [("namespace", "swift"), ("name", "storage")])]
    let answer (request : Request) (state : Unit) : Reply × Unit :=
      match request with
      | .readStorage _ _ => (.ok resource, state)
      | .readSet _ _ => (.error (.notFound "not found"), state)
      | .createSet _ _ => (.error (.conflict "exists"), state)
      | _ => (.error (.transport "unavailable" (.int 503)), state)
    ∃ directive after,
      (((Pass.reconcile s "swift" "storage").start c).run answer ()).1 = (.ok directive, after) ∧
      Classified s "swift" "storage"
        ((((Pass.reconcile s "swift" "storage").start c).turns answer ()).map Turn.exchange)
        directive := by
  intro s c resource answer
  have storage : StorageShaped resource := by
    refine ⟨⟨_, rfl⟩, ?_⟩
    intro status h
    cases h
  refine reconcile_classified answer () s "swift" "storage" c ?_
  intro turn ht
  rw [(Calls.turns_of_run answer _ ()).of_mem turn ht]
  cases turn.exchange.request with
  | readStorage => exact storage
  | _ => exact rfl

end StorageController
