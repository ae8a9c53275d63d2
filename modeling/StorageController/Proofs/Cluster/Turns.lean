import StorageController.Proofs.Pass.Ends

namespace StorageController

variable {σ α : Type}

/-- A request at a server, with the states around it. -/
structure Turn (σ : Type) where
  before : σ
  exchange : Exchange
  after : σ

def Turn.of (answer : Request → σ → Reply × σ) (request : Request) (before : σ) : Turn σ :=
  ⟨before, ⟨request, (answer request before).1⟩, (answer request before).2⟩

theorem Turn.of_eq {answer : Request → σ → Reply × σ} {request : Request} {before after : σ}
    {reply : Reply} (h : answer request before = (reply, after)) :
    Turn.of answer request before = ⟨before, ⟨request, reply⟩, after⟩ := by
  rw [Turn.of, h]

/-- Turns one after the other from a state to another. Others act before each turn and at the
end. -/
inductive Turns (answer : Request → σ → Reply × σ) (others : σ → σ → Prop) :
    σ → List (Turn σ) → σ → Prop
  | done {s last : σ} (act : others s last) : Turns answer others s [] last
  | turn {s before last : σ} {request : Request} {rest : List (Turn σ)} (act : others s before)
      (further : Turns answer others (answer request before).2 rest last) :
      Turns answer others s (Turn.of answer request before :: rest) last

namespace Turns

variable {answer : Request → σ → Reply × σ} {others : σ → σ → Prop} {s last : σ}

theorem of_mem {turns : List (Turn σ)} (h : Turns answer others s turns last) :
    ∀ turn ∈ turns, turn = Turn.of answer turn.exchange.request turn.before := by
  induction h with
  | done act => simp
  | turn act further ih =>
    intro turn ht
    rcases List.mem_cons.mp ht with rfl | inside
    · rfl
    · exact ih turn inside

theorem mono {others' : σ → σ → Prop} {turns : List (Turn σ)} (h : Turns answer others s turns last)
    (weaker : ∀ s s', others s s' → others' s s') : Turns answer others' s turns last := by
  induction h with
  | done act => exact .done (weaker _ _ act)
  | turn act further ih => exact .turn (weaker _ _ act) ih

theorem uncons {turns : List (Turn σ)} {request : Request} {reply : Reply} {tr : List Exchange}
    (h : Turns answer others s turns last)
    (head : turns.map Turn.exchange = ⟨request, reply⟩ :: tr) :
    ∃ before rest, others s before ∧ (answer request before).1 = reply ∧
      turns = Turn.of answer request before :: rest ∧ rest.map Turn.exchange = tr ∧
      Turns answer others (answer request before).2 rest last := by
  cases h with
  | done act => cases head
  | turn act further =>
    obtain ⟨first, others⟩ := List.cons.inj head
    obtain ⟨rfl, rfl⟩ := Exchange.mk.inj first
    exact ⟨_, _, act, rfl, rfl, others, further⟩

end Turns

namespace Calls

/-- The turns of a program at a server that nobody else uses. -/
def turns (answer : Request → σ → Reply × σ) : Calls α → σ → List (Turn σ)
  | .ret _, _ => []
  | .call request next, state =>
    Turn.of answer request state ::
      (next (answer request state).1).turns answer (answer request state).2

theorem ends_turns (answer : Request → σ → Reply × σ) (program : Calls α) (state : σ) :
    program.Ends ((program.turns answer state).map Turn.exchange)
      (program.run answer state).1 := by
  induction program generalizing state with
  | ret result => exact .ret result
  | call request next ih => exact .call (ih _ _)

theorem turns_of_run (answer : Request → σ → Reply × σ) (program : Calls α) (state : σ) :
    Turns answer Eq state (program.turns answer state) (program.run answer state).2.1 := by
  induction program generalizing state with
  | ret result => exact .done rfl
  | call request next ih => exact .turn rfl (ih _ _)

theorem requests_of_run (answer : Request → σ → Reply × σ) (program : Calls α) (state : σ) :
    ((program.turns answer state).map Turn.exchange).map Exchange.request =
      (program.run answer state).2.2 := by
  induction program generalizing state with
  | ret result => rfl
  | call request next ih => exact congrArg (request :: ·) (ih _ _)

theorem makes_of_run (answer : Request → σ → Reply × σ) {program : Calls α} (state : σ)
    {request : Request} (h : request ∈ (program.run answer state).2.2) : program.Makes request := by
  induction program generalizing state with
  | ret result => simp [run] at h
  | call first next ih =>
    rcases List.mem_cons.mp h with rfl | later
    · exact ⟨[], next, .here _⟩
    · obtain ⟨tr, next, reaches⟩ := ih _ _ later
      exact ⟨_, next, .call reaches⟩

end Calls

theorem Pass.ends_run (answer : Request → σ → Reply × σ) (pass : Pass α) (c : Context)
    (state : σ) :
    pass.Ends c (((pass.start c).turns answer state).map Turn.exchange)
      ((pass.start c).run answer state).1.1 ((pass.start c).run answer state).1.2 :=
  Calls.ends_turns answer (pass.start c) state

end StorageController
