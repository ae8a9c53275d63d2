import StorageController.Pass.Basic

namespace StorageController

structure Exchange where
  request : Request
  reply : Reply

namespace Calls

variable {α β : Type}

inductive Ends : Calls α → List Exchange → α → Prop
  | ret (result : α) : Ends (.ret result) [] result
  | call {request : Request} {next : Reply → Calls α} {reply : Reply} {rest : List Exchange}
      {result : α} (further : Ends (next reply) rest result) :
      Ends (.call request next) (⟨request, reply⟩ :: rest) result

theorem ends_ret_iff {a result : α} {tr : List Exchange} :
    Ends (.ret a) tr result ↔ tr = [] ∧ result = a := by
  constructor
  · intro h
    cases h
    exact ⟨rfl, rfl⟩
  · rintro ⟨rfl, rfl⟩
    exact .ret result

theorem ends_call_iff {request : Request} {next : Reply → Calls α} {tr : List Exchange}
    {result : α} :
    Ends (.call request next) tr result ↔
      ∃ reply rest, tr = ⟨request, reply⟩ :: rest ∧ Ends (next reply) rest result := by
  constructor
  · intro h
    cases h with
    | call further => exact ⟨_, _, rfl, further⟩
  · rintro ⟨reply, rest, rfl, further⟩
    exact .call further

theorem ends_bind_iff {program : Calls α} {f : α → Calls β} {tr : List Exchange} {result : β} :
    Ends (program.bind f) tr result ↔
      ∃ first second a, tr = first ++ second ∧ Ends program first a ∧ Ends (f a) second result := by
  induction program generalizing tr with
  | ret a =>
    constructor
    · intro h
      exact ⟨[], tr, a, rfl, .ret a, h⟩
    · rintro ⟨first, second, b, rfl, hp, h⟩
      obtain ⟨rfl, rfl⟩ := ends_ret_iff.mp hp
      exact h
  | call request next ih =>
    constructor
    · intro h
      obtain ⟨reply, rest, rfl, further⟩ := ends_call_iff.mp h
      obtain ⟨first, second, a, rfl, hp, hf⟩ := (ih reply).mp further
      exact ⟨_, second, a, rfl, .call hp, hf⟩
    · rintro ⟨first, second, a, rfl, hp, hf⟩
      obtain ⟨reply, rest, rfl, further⟩ := ends_call_iff.mp hp
      exact .call ((ih reply).mpr ⟨rest, second, a, rfl, further, hf⟩)

/-- What is left of a program after some exchanges. -/
inductive Reaches : Calls α → List Exchange → Calls α → Prop
  | here (program : Calls α) : Reaches program [] program
  | call {request : Request} {next : Reply → Calls α} {reply : Reply} {rest : List Exchange}
      {left : Calls α} (further : Reaches (next reply) rest left) :
      Reaches (.call request next) (⟨request, reply⟩ :: rest) left

theorem exists_ends (program : Calls α) : ∃ tr result, Ends program tr result := by
  induction program with
  | ret result => exact ⟨[], result, .ret result⟩
  | call request next ih =>
    obtain ⟨tr, result, further⟩ := ih (.error .overflow)
    exact ⟨_, result, .call further⟩

theorem Reaches.ends {program left : Calls α} {tr rest : List Exchange} {result : α}
    (h : Reaches program tr left) (further : Ends left rest result) :
    Ends program (tr ++ rest) result := by
  induction h with
  | here program => exact further
  | call _ ih => exact .call (ih further)

theorem Reaches.trans {program middle left : Calls α} {tr rest : List Exchange}
    (h : Reaches program tr middle) (further : Reaches middle rest left) :
    Reaches program (tr ++ rest) left := by
  induction h with
  | here program => exact further
  | call _ ih => exact .call (ih further)

/-- A request of a program may be answered in any way, and then the program ends somehow. -/
theorem Reaches.ends_of_call {program : Calls α} {tr : List Exchange} {request : Request}
    {next : Reply → Calls α} (h : Reaches program tr (.call request next)) (reply : Reply) :
    ∃ tail result, Ends program (tr ++ ⟨request, reply⟩ :: tail) result := by
  obtain ⟨tail, result, further⟩ := exists_ends (next reply)
  exact ⟨tail, result, h.ends (.call further)⟩

/-- After some exchanges the program makes the request. -/
def Makes (program : Calls α) (request : Request) : Prop :=
  ∃ tr next, program.Reaches tr (.call request next)

theorem Makes.ends {program : Calls α} {request : Request} (h : program.Makes request) :
    ∃ tr result, Ends program tr result ∧ ∃ e ∈ tr, e.request = request := by
  obtain ⟨tr, next, reaches⟩ := h
  obtain ⟨tail, result, ends⟩ := reaches.ends_of_call (.error .overflow)
  exact ⟨_, result, ends, ⟨request, .error .overflow⟩, by simp, rfl⟩

end Calls

/-- The context after a part of a pass that counted some metrics: the time is the same. -/
structure Context.Grows (counted : List Metric) (c after : Context) : Prop where
  clock : after.clock = c.clock
  metrics : after.journal.metrics = c.journal.metrics ++ counted

namespace Context.Grows

variable {c c₁ c₂ : Context} {counted further : List Metric}

theorem refl (c : Context) : c.Grows [] c :=
  ⟨rfl, (List.append_nil _).symm⟩

theorem trans (h : c.Grows counted c₁) (h' : c₁.Grows further c₂) :
    c.Grows (counted ++ further) c₂ := by
  refine ⟨h'.clock.trans h.clock, ?_⟩
  rw [h'.metrics, h.metrics, List.append_assoc]

end Context.Grows

namespace Pass

variable {α β : Type} {pass : Pass α} {f : α → Pass β} {c c' : Context} {tr : List Exchange}
  {counted further : List Metric}

/-- The pass ends with an outcome and a context after the exchanges. -/
def Ends (pass : Pass α) (c : Context) (tr : List Exchange) (outcome : Except Fault α)
    (after : Context) : Prop :=
  (pass.start c).Ends tr (outcome, after)

/-- The pass gives a value and counts some metrics without asking anything. -/
def Notes (pass : Pass α) (c : Context) (a : α) (counted : List Metric) : Prop :=
  ∃ after, pass.start c = .ret (.ok a, after) ∧ c.Grows counted after

theorem start_bind (pass : Pass α) (f : α → Pass β) (c : Context) :
    (pass >>= f).start c = (pass.start c).bind fun
      | (.ok a, after) => (f a).start after
      | (.error fault, after) => .ret (.error fault, after) := by
  change Calls.bind _ _ = Calls.bind _ _
  congr 1
  funext ⟨outcome, after⟩
  cases outcome <;> rfl

theorem start_attempt (pass : Pass α) (c : Context) :
    (attempt pass).start c = (pass.start c).bind fun x => .ret (.ok x.1, x.2) := rfl

theorem ends_pure_iff {a : α} {outcome : Except Fault α} :
    Ends (pure a) c tr outcome c' ↔ tr = [] ∧ outcome = .ok a ∧ c' = c := by
  refine Calls.ends_ret_iff.trans ?_
  rw [Prod.mk.injEq]

theorem ends_throw_iff {fault : Fault} {outcome : Except Fault α} :
    Ends (throw fault) c tr outcome c' ↔ tr = [] ∧ outcome = .error fault ∧ c' = c := by
  refine Calls.ends_ret_iff.trans ?_
  rw [Prod.mk.injEq]

theorem ends_ofExcept_iff {x outcome : Except Fault α} :
    Ends (ofExcept x) c tr outcome c' ↔ tr = [] ∧ outcome = x ∧ c' = c := by
  refine Calls.ends_ret_iff.trans ?_
  rw [Prod.mk.injEq]

/-- The first part fails, or the second goes on with its value. -/
theorem Ends.of_bind {outcome : Except Fault β} (h : Ends (pass >>= f) c tr outcome c') :
    (∃ fault, outcome = .error fault ∧ Ends pass c tr (.error fault) c') ∨
    ∃ a c₁ first second, tr = first ++ second ∧ Ends pass c first (.ok a) c₁ ∧
      Ends (f a) c₁ second outcome c' := by
  rw [Ends, start_bind] at h
  obtain ⟨first, second, ⟨result, c₁⟩, rfl, hp, hf⟩ := Calls.ends_bind_iff.mp h
  cases result with
  | ok a => exact Or.inr ⟨a, c₁, first, second, rfl, hp, hf⟩
  | error fault =>
    obtain ⟨rfl, eq⟩ := Calls.ends_ret_iff.mp hf
    obtain ⟨rfl, rfl⟩ := Prod.mk.inj eq
    exact Or.inl ⟨fault, rfl, by rwa [List.append_nil]⟩

theorem Ends.of_attempt {outcome : Except Fault (Except Fault α)}
    (h : Ends (attempt pass) c tr outcome c') :
    ∃ inner, outcome = .ok inner ∧ Ends pass c tr inner c' := by
  rw [Ends, start_attempt] at h
  obtain ⟨first, second, ⟨inner, c₁⟩, rfl, hp, hf⟩ := Calls.ends_bind_iff.mp h
  obtain ⟨rfl, eq⟩ := Calls.ends_ret_iff.mp hf
  obtain ⟨rfl, rfl⟩ := Prod.mk.inj eq
  exact ⟨inner, rfl, by rwa [List.append_nil]⟩

theorem Ends.of_attempt_bind {f : Except Fault α → Pass β} {outcome : Except Fault β}
    (h : Ends (attempt pass >>= f) c tr outcome c') :
    ∃ inner c₁ first second, tr = first ++ second ∧ Ends pass c first inner c₁ ∧
      Ends (f inner) c₁ second outcome c' := by
  rcases h.of_bind with ⟨fault, _, failed⟩ | ⟨inner, c₁, first, second, eq, hp, hf⟩
  · obtain ⟨_, no, _⟩ := failed.of_attempt
    cases no
  · obtain ⟨_, same, hp⟩ := hp.of_attempt
    cases same
    exact ⟨inner, c₁, first, second, eq, hp, hf⟩

theorem Ends.of_request {r : Request} {outcome : Except Fault Json}
    (h : Ends (request r) c tr outcome c') : tr = [⟨r, outcome⟩] ∧ c' = c := by
  obtain ⟨reply, rest, rfl, hr⟩ := Calls.ends_call_iff.mp h
  obtain ⟨rfl, eq⟩ := Calls.ends_ret_iff.mp hr
  obtain ⟨rfl, rfl⟩ := Prod.mk.inj eq
  exact ⟨rfl, rfl⟩

/-- A request whose reply is looked at: the rest goes on with any reply. -/
theorem Ends.of_ask_bind {r : Request} {f : Reply → Pass β} {outcome : Except Fault β}
    (h : Ends (attempt (request r) >>= f) c tr outcome c') :
    ∃ reply rest, tr = ⟨r, reply⟩ :: rest ∧ Ends (f reply) c rest outcome c' := by
  obtain ⟨reply, c₁, first, second, rfl, asked, hf⟩ := h.of_attempt_bind
  obtain ⟨rfl, rfl⟩ := asked.of_request
  exact ⟨reply, second, rfl, hf⟩

theorem Ends.of_notes {a : α} {outcome : Except Fault α} (h : Ends pass c tr outcome c')
    (notes : Notes pass c a counted) : tr = [] ∧ outcome = .ok a ∧ c.Grows counted c' := by
  obtain ⟨after, eq, grows⟩ := notes
  rw [Ends, eq] at h
  obtain ⟨rfl, eq⟩ := Calls.ends_ret_iff.mp h
  obtain ⟨rfl, rfl⟩ := Prod.mk.inj eq
  exact ⟨rfl, rfl, grows⟩

theorem Ends.of_notes_bind {a : α} {outcome : Except Fault β}
    (h : Ends (pass >>= f) c tr outcome c') (notes : Notes pass c a counted) :
    ∃ c₁, c.Grows counted c₁ ∧ Ends (f a) c₁ tr outcome c' := by
  obtain ⟨c₁, eq, grows⟩ := notes
  rw [Ends, start_bind, eq] at h
  exact ⟨c₁, grows, h⟩

theorem Ends.of_ofExcept_bind {x : Except Fault α} {outcome : Except Fault β}
    (h : Ends (ofExcept x >>= f) c tr outcome c') :
    (∃ fault, x = .error fault ∧ tr = [] ∧ outcome = .error fault ∧ c' = c) ∨
    ∃ a, x = .ok a ∧ Ends (f a) c tr outcome c' := by
  cases x with
  | ok a => exact Or.inr ⟨a, rfl, h⟩
  | error fault =>
    obtain ⟨rfl, eq⟩ := Calls.ends_ret_iff.mp h
    obtain ⟨rfl, rfl⟩ := Prod.mk.inj eq
    exact Or.inl ⟨fault, rfl, rfl, rfl, rfl⟩

theorem Ends.of_ok_bind {x : Except Fault α} {a : α} {outcome : Except Fault β}
    (h : Ends (ofExcept x >>= f) c tr outcome c') (eq : x = .ok a) : Ends (f a) c tr outcome c' := by
  subst eq
  exact h

theorem Notes.pure (a : α) (c : Context) : Notes (pure a) c a [] :=
  ⟨c, rfl, .refl c⟩

theorem Notes.bind {a : α} {b : β} (first : Notes pass c a counted)
    (second : ∀ c₁, c.Grows counted c₁ → Notes (f a) c₁ b further) :
    Notes (pass >>= f) c b (counted ++ further) := by
  obtain ⟨c₁, eq, grows⟩ := first
  obtain ⟨c₂, eq', grows'⟩ := second c₁ grows
  refine ⟨c₂, ?_, grows.trans grows'⟩
  rw [start_bind, eq]
  exact eq'

theorem Notes.ofExcept {x : Except Fault α} {a : α} (h : x = .ok a) (c : Context) :
    Notes (ofExcept x) c a [] := by
  subst h
  exact ⟨c, rfl, .refl c⟩

theorem notes_note (n : Note) (c : Context) : Notes (note n) c () (Journal.metrics [n]) :=
  ⟨_, rfl, rfl, by simp [Journal.metrics, List.filterMap_append]⟩

theorem notes_count (m : Metric) (c : Context) : Notes (count m) c () [m] :=
  notes_note (.metric m) c

theorem notes_emit (e : Event) (c : Context) : Notes (emit e) c () [] :=
  notes_note (.event e) c

theorem notes_context (c : Context) : Notes context c c [] :=
  ⟨c, rfl, .refl c⟩

end Pass

end StorageController
