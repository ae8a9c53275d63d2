import Mathlib.Logic.Relation
import StorageController.Proofs.Pass.WrittenStatus

namespace StorageController

open Json

variable {δ : Type}

/-- A pass so far: the context in which it started, and its exchanges. -/
structure Visit where
  context : Context
  exchanges : List Exchange

/-- A status that was stored, as it was after it was merged, and the visit that had asked for it. -/
structure StoredStatus where
  visit : Visit
  status : Json

/-- The resource with the visits to it and the statuses that were stored in it, newest first. -/
structure World where
  resource : Json
  visits : List Visit
  stored : List StoredStatus

def World.start (resource : Json) : World :=
  ⟨resource, [], []⟩

variable [Redaction.VisitingOrder]

namespace Visit

def Asks (v : Visit) (s : Settings δ) (ns name : Json) (request : Request) : Prop :=
  ∃ next, ((Pass.reconcile s ns name).start v.context).Reaches v.exchanges (.call request next)

def answered (v : Visit) (request : Request) (reply : Reply) : Visit :=
  { v with exchanges := v.exchanges ++ [⟨request, reply⟩] }

def Read (v : Visit) (ns name resource : Json) : Prop :=
  ∃ rest, v.exchanges = ⟨.readStorage ns name, .ok resource⟩ :: rest

end Visit

/-- One step: others edit the resource, a visit begins, a request of the newest visit is answered,
or it is answered after the status was stored. A read that succeeds delivers the resource. -/
inductive World.Step (s : Settings δ) (edits : Json → Json → Prop) (ns name : Json) :
    World → World → Prop
  | edit {w : World} {after : Json} (edited : edits w.resource after) :
      Step s edits ns name w { w with resource := after }
  | begin {w : World} (c : Context) :
      Step s edits ns name w { w with visits := ⟨c, []⟩ :: w.visits }
  | answer {w : World} {v : Visit} {older : List Visit} {request : Request} {reply : Reply}
      (newest : w.visits = v :: older) (asks : v.Asks s ns name request)
      (honest : ∀ object, request = .readStorage ns name → reply = .ok object →
        object = w.resource) :
      Step s edits ns name w { w with visits := v.answered request reply :: older }
  | store {w : World} {v : Visit} {older : List Visit} {status after : Json} (reply : Reply)
      (newest : w.visits = v :: older) (asks : v.Asks s ns name (.patchStatus ns name status))
      (change : StatusWritten w.resource status after) :
      Step s edits ns name w
        { resource := after
          visits := v.answered (.patchStatus ns name status) reply :: older
          stored := ⟨v, ((w.resource.get? "status").getD .null).merge status⟩ :: w.stored }

/-- Changes of a resource by others: they leave the status alone, and the metadata an object in
which the generation is none. -/
structure Edited (before after : Json) : Prop where
  status : after.get? "status" = before.get? "status"
  metadata : ∃ fields, after.get? "metadata" = some (.obj fields)
  generation : ∀ fields, after.path? ["metadata", "generation"] ≠ some (.obj fields)

namespace Visit

variable {v : Visit} {s : Settings δ} {ns name : Json}

theorem asks_first {request : Request} (asks : v.Asks s ns name request)
    (first : v.exchanges = []) : request = .readStorage ns name := by
  obtain ⟨next, reaches⟩ := asks
  rw [first] at reaches
  obtain ⟨tail, ⟨outcome, after⟩, ends⟩ := reaches.ends_of_call (.error .overflow)
  obtain ⟨reply, rest, eq, _⟩ := Pass.Ends.course_of_reconcile ends
  cases eq
  rfl

/-- A visit that asks for a status has read the resource, and the status is what it has to write. -/
theorem written_of_asks {place called status : Json}
    (asks : v.Asks s ns name (.patchStatus place called status))
    (shaped : ∀ resource, v.Read ns name resource → StorageShaped resource) :
    ∃ resource front, v.exchanges = ⟨.readStorage ns name, .ok resource⟩ :: front ∧
      StorageShaped resource ∧ Written v.context.clock resource front status := by
  have asks' := asks
  obtain ⟨next, reaches⟩ := asks
  obtain ⟨tail, ⟨outcome, after⟩, ends⟩ := reaches.ends_of_call (.error .overflow)
  obtain ⟨reply, rest, eq, failed, course⟩ := Pass.Ends.course_of_reconcile ends
  cases exchanges : v.exchanges with
  | nil => cases asks_first asks' exchanges
  | cons e front =>
    rw [exchanges] at eq
    obtain ⟨rfl, rfl⟩ := List.cons.inj eq
    cases reply with
    | error fault =>
      have nothing := failed fault rfl
      simp at nothing
    | ok resource =>
      have read := shaped resource ⟨front, exchanges⟩
      obtain ⟨status', same, written, _⟩ :=
        (course resource rfl read).written_of_status ⟨place, called, status, rfl⟩
      cases same
      exact ⟨resource, front, rfl, read, written⟩

theorem read_of_answered {request : Request} {reply : Reply} {resource : Json}
    (asks : v.Asks s ns name request) (read : (v.answered request reply).Read ns name resource) :
    v.Read ns name resource ∨
      v.exchanges = [] ∧ request = .readStorage ns name ∧ reply = .ok resource := by
  obtain ⟨rest, eq⟩ := read
  cases exchanges : v.exchanges with
  | nil =>
    rw [answered, exchanges] at eq
    obtain ⟨same, _⟩ := List.cons.inj eq
    obtain ⟨rfl, rfl⟩ := Exchange.mk.inj same
    exact Or.inr ⟨rfl, rfl, rfl⟩
  | cons e front =>
    rw [answered, exchanges] at eq
    obtain ⟨rfl, _⟩ := List.cons.inj eq
    exact Or.inl ⟨front, exchanges⟩

omit [Redaction.VisitingOrder] in
theorem answered_of_read {request : Request} {reply : Reply} {resource : Json}
    (read : v.Read ns name resource) : (v.answered request reply).Read ns name resource := by
  obtain ⟨rest, eq⟩ := read
  exact ⟨rest ++ [⟨request, reply⟩], by rw [answered, eq, List.cons_append]⟩

end Visit

/-- A resource as the server keeps it: well-shaped, with a generation that is no object. -/
structure Served (resource : Json) : Prop extends StorageShaped resource where
  generation : ∀ fields, resource.path? ["metadata", "generation"] ≠ some (.obj fields)

omit [Redaction.VisitingOrder] in
theorem Served.edited {before after : Json} (served : Served before) (edited : Edited before after) :
    Served after where
  metadata := edited.metadata
  status := by
    rw [edited.status]
    exact served.status
  generation := edited.generation

omit [Redaction.VisitingOrder] in
theorem Served.written {resource status after : Json} (served : Served resource)
    (listed : StatusListed status) (change : StatusWritten resource status after) :
    Served after where
  toStorageShaped := (declared_of_statusWritten change listed served.toStorageShaped).1
  generation := by
    rw [change.path?_metadata served.toStorageShaped (by simp [declaredKeys])]
    exact served.generation

/-- What holds between any two steps. The newest visit has read a resource whose status is still the
one that is stored, until the visit writes another. -/
structure World.Sound (ns name : Json) (w : World) : Prop where
  served : Served w.resource
  read : ∀ v older, w.visits = v :: older → ∀ resource, v.Read ns name resource →
    Served resource ∧ ((∀ e ∈ v.exchanges, ¬ e.request.IsStatus) →
      resource.get? "status" = w.resource.get? "status")

namespace World

variable {s : Settings δ} {edits : Json → Json → Prop} {ns name : Json} {w w' : World}

omit [Redaction.VisitingOrder] in
theorem sound_start {resource : Json} (served : Served resource) :
    Sound ns name (start resource) :=
  ⟨served, by simp [start]⟩

/-- What the newest visit writes follows from the resource that is stored, but for its
specification and its metadata, which others may have changed since. -/
theorem Sound.written {v : Visit} {older : List Visit} {place called status : Json}
    (sound : Sound ns name w) (newest : w.visits = v :: older)
    (asks : v.Asks s ns name (.patchStatus place called status)) :
    ∃ resource front, v.exchanges = ⟨.readStorage ns name, .ok resource⟩ :: front ∧
      Served resource ∧ resource.get? "status" = w.resource.get? "status" ∧
      Written v.context.clock resource front status := by
  obtain ⟨resource, front, eq, _, written⟩ := Visit.written_of_asks asks
    fun resource read => (sound.read v older newest resource read).1.toStorageShaped
  obtain ⟨served, same⟩ := sound.read v older newest resource ⟨front, eq⟩
  refine ⟨resource, front, eq, served, same ?_, written⟩
  rw [eq]
  exact List.forall_mem_cons.mpr ⟨by simp [Request.IsStatus], written.not_status⟩

theorem Sound.step (sound : Sound ns name w) (edited : ∀ before after, edits before after →
    Edited before after) (step : Step s edits ns name w w') : Sound ns name w' := by
  cases step with
  | edit change =>
    have change := edited _ _ change
    refine ⟨sound.served.edited change, ?_⟩
    intro v older newest resource read
    obtain ⟨served, same⟩ := sound.read v older newest resource read
    exact ⟨served, fun unasked => (same unasked).trans change.status.symm⟩
  | begin c =>
    refine ⟨sound.served, ?_⟩
    rintro v older newest resource ⟨rest, eq⟩
    cases newest
    cases eq
  | answer newest asks honest =>
    refine ⟨sound.served, ?_⟩
    intro v older newest' resource read
    cases newest'
    rcases Visit.read_of_answered asks read with read | ⟨_, reads, delivered⟩
    · obtain ⟨served, same⟩ := sound.read _ _ newest resource read
      refine ⟨served, fun unasked => same fun e he => unasked e ?_⟩
      exact List.mem_append_left _ he
    · obtain rfl := honest resource reads delivered
      exact ⟨sound.served, fun _ => rfl⟩
  | @store v older status after reply newest asks change =>
    obtain ⟨resource, front, eq, served, _, written⟩ := sound.written newest asks
    refine ⟨sound.served.written (written.listed served.toStorageShaped) change, ?_⟩
    intro v' older' newest' other read
    cases newest'
    refine ⟨?_, fun unasked => absurd ⟨ns, name, status, rfl⟩ (unasked ⟨_, reply⟩ ?_)⟩
    · rcases Visit.read_of_answered asks read with read | ⟨_, no, _⟩
      · exact (sound.read _ _ newest other read).1
      · cases no
    · exact List.mem_append_right _ List.mem_cons_self

/-- Without an interruption the newest visit goes on as the pass does. -/
theorem proceeds {v : Visit} {older : List Visit}
    {middle left : Calls (Except Fault (Directive δ) × Context)} {exchanges : List Exchange}
    (newest : w.visits = v :: older)
    (reached : ((Pass.reconcile s ns name).start v.context).Reaches v.exchanges middle)
    (further : middle.Reaches exchanges left)
    (honest : ∀ e ∈ exchanges, ∀ object, e.request = .readStorage ns name → e.reply = .ok object →
      object = w.resource) :
    Relation.ReflTransGen (Step s edits ns name) w
      { w with visits := { v with exchanges := v.exchanges ++ exchanges } :: older } := by
  induction further generalizing w v with
  | here program =>
    rw [List.append_nil, ← newest]
  | @call request next reply rest left _ ih =>
    obtain ⟨first, others⟩ := List.forall_mem_cons.mp honest
    refine .head (.answer newest ⟨next, reached⟩ first) ?_
    have run := ih (w := { w with visits := v.answered request reply :: older }) rfl
      (reached.trans (.call (.here _))) others
    rw [Visit.answered, List.append_assoc] at run
    exact run

end World

end StorageController
