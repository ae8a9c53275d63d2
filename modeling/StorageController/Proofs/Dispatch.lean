import StorageController.Dispatch
import StorageController.Proofs.Pass.Logging
import StorageController.Proofs.StatefulSet.Ownership

namespace StorageController

open Json Ownership

variable {δ : Type} {c c' : Context} {tr : List Exchange}

def eventNs (given : Json) (metadata : Fields) : Json :=
  if given.truthy then given else (metadata.lookup "namespace").getD "default"

/-- What tells a change from the others: the version of the object, or its identifier. -/
def triggerOf (metadata : Fields) : Json :=
  ((metadata.lookup "resourceVersion").getD .null).orElse ((metadata.lookup "uid").getD "unknown")

def triggerRequest (given : Json) (metadata : Fields) (owner : Json) : Request :=
  .annotate (eventNs given metadata) owner (.obj [(Cluster.triggerKey, triggerOf metadata)])

namespace Pass

variable [Redaction.VisitingOrder]

theorem Ends.of_requestPass {ns name trigger : Json} {outcome : Except Fault Bool}
    (h : Ends (requestPass ns name trigger) c tr outcome c') :
    ∃ reply, tr = [⟨.annotate ns name (.obj [(Cluster.triggerKey, trigger)]), reply⟩] ∧
      ((∃ noted, outcome = .ok noted) ∨
        ∃ fault, reply = .error fault ∧ outcome = .error fault) := by
  obtain ⟨reply, rest, rfl, answered⟩ := h.of_ask_bind
  cases reply with
  | ok object =>
    obtain ⟨rfl, rfl, _⟩ := ends_pure_iff.mp answered
    exact ⟨_, rfl, Or.inl ⟨_, rfl⟩⟩
  | error fault =>
    cases fault with
    | notFound message =>
      obtain ⟨c₁, _, logged⟩ := answered.of_notes_bind (notes_logInfo _ _ _ _ _ c)
      obtain ⟨rfl, rfl, _⟩ := ends_pure_iff.mp logged
      exact ⟨_, rfl, Or.inl ⟨_, rfl⟩⟩
    | _ =>
      obtain ⟨rfl, rfl, _⟩ := ends_throw_iff.mp answered
      exact ⟨_, rfl, Or.inr ⟨_, rfl, rfl⟩⟩

theorem notes_reportTriggerFailed (metadata : Fields) (ns owner : Json) (fault : Fault)
    (c : Context) :
    Notes (Dispatcher.reportTriggerFailed (.obj metadata) ns owner fault) c () [] := by
  refine (Notes.ofExcept rfl c).bind fun c₁ _ => (Notes.ofExcept rfl c₁).bind fun c₂ _ => ?_
  exact notes_logAbout _ _ _ _ _ rfl c₂

omit [Redaction.VisitingOrder] in
theorem Ends.of_eventNs {β : Type} {given : Json} {metadata : Fields} {f : Json → Pass β}
    {outcome : Except Fault β}
    (h : Ends (if given.truthy then pure given >>= f
      else ofExcept ((Json.obj metadata).lookupD "namespace" "default") >>= f) c tr outcome c') :
    Ends (f (eventNs given metadata)) c tr outcome c' := by
  unfold eventNs
  split at h
  next truthy =>
    rw [if_pos truthy]
    exact h
  next falsy =>
    rw [if_neg falsy]
    exact h.of_ok_bind (lookupD_obj _ _ _)

/-- A pass is asked for once, and no error of the operator escapes. -/
theorem Ends.of_triggerOwner {reference object given owner : Json} {metadata : Fields}
    {outcome : Except Fault Unit} (readable : metadataIn object = .ok (.obj metadata))
    (named : reference.get? "name" = some owner)
    (h : Ends (Dispatcher.triggerOwner reference object given) c tr outcome c') :
    ∃ reply, tr = [⟨triggerRequest given metadata owner, reply⟩] ∧
      (outcome = .ok () ∨
        ∃ fault, fault.isOperator = false ∧ reply = .error fault ∧ outcome = .error fault) := by
  replace h := h.of_ok_bind readable
  replace h := Ends.of_eventNs h
  replace h := (h.of_ok_bind (lookupD_obj _ _ _)).of_ok_bind (lookupD_obj _ _ _)
  rw [named] at h
  obtain ⟨inner, c₂, first, second, rfl, asked, rest⟩ := h.of_attempt_bind
  obtain ⟨reply, rfl, answered⟩ := asked.of_requestPass
  refine ⟨reply, ?_⟩
  rcases answered with ⟨noted, rfl⟩ | ⟨fault, rfl, rfl⟩
  · obtain ⟨rfl, rfl, _⟩ := ends_pure_iff.mp rest
    exact ⟨rfl, Or.inl rfl⟩
  · by_cases operator : fault.isOperator = true
    · replace rest : Ends (if fault.isOperator then _ else throw fault) c₂ second outcome c' := rest
      rw [if_pos operator] at rest
      obtain ⟨rfl, rfl, _⟩ := rest.of_notes (notes_reportTriggerFailed _ _ _ _ _)
      exact ⟨rfl, Or.inl rfl⟩
    · replace rest : Ends (if fault.isOperator then _ else throw fault) c₂ second outcome c' := rest
      rw [if_neg operator] at rest
      obtain ⟨rfl, rfl, _⟩ := ends_throw_iff.mp rest
      exact ⟨rfl, Or.inr ⟨fault, by simpa using operator, rfl, rfl⟩⟩

/-- An object that no storage resource controls is none of the dispatcher's business. -/
theorem Ends.of_handleSet_none {d : Dispatcher δ} {object given : Json}
    {outcome : Except Fault (Handled δ)} (controlled : controllerOf object = .ok none)
    (h : Ends (d.handleSet object given) c tr outcome c') :
    tr = [] ∧ outcome = .ok .finished := by
  obtain ⟨rfl, rfl, _⟩ := ends_pure_iff.mp (h.of_ok_bind controlled)
  exact ⟨rfl, rfl⟩

theorem Ends.of_handleSet_some {d : Dispatcher δ} {reference object given owner : Json}
    {metadata : Fields} {outcome : Except Fault (Handled δ)} (bound : d.isBound = true)
    (controlled : controllerOf object = .ok (some reference))
    (readable : metadataIn object = .ok (.obj metadata))
    (named : reference.get? "name" = some owner)
    (h : Ends (d.handleSet object given) c tr outcome c') :
    ∃ reply, tr = [⟨triggerRequest given metadata owner, reply⟩] ∧
      (outcome = .ok .finished ∨
        ∃ fault, fault.isOperator = false ∧ reply = .error fault ∧ outcome = .error fault) := by
  replace h : Ends (if d.isBound then Dispatcher.triggerOwner reference object given >>= _ else _)
    c tr outcome c' := h.of_ok_bind controlled
  rw [if_pos bound] at h
  rcases h.of_bind with ⟨fault, rfl, failed⟩ | ⟨_, c₁, first, second, rfl, asked, rest⟩
  · obtain ⟨reply, eq, no | ⟨_, other, refused, same⟩⟩ := failed.of_triggerOwner readable named
    · cases no
    · cases same
      exact ⟨reply, eq, Or.inr ⟨fault, other, refused, rfl⟩⟩
  · obtain ⟨reply, rfl, _⟩ := asked.of_triggerOwner readable named
    obtain ⟨rfl, rfl, _⟩ := ends_pure_iff.mp rest
    exact ⟨reply, rfl, Or.inl rfl⟩

/-- A pass at a bound dispatcher ends as the pass does, and is handled again unless it is done. -/
theorem Ends.of_handleStorage [Duration δ] {d : Dispatcher δ} {s : Settings δ} {ns name : Json}
    {retry : Int} {outcome : Except Fault (Handled δ)} (bound : d.reconciler = some s)
    (h : Ends (d.handleStorage ns name retry) c tr outcome c') :
    ∃ inner c₁, Ends (reconcile s ns name) c tr inner c₁ ∧
      (inner = .ok .done → outcome = .ok .finished) := by
  rw [Dispatcher.handleStorage, bound] at h
  rcases h.of_bind with ⟨fault, rfl, failed⟩ | ⟨directive, c₁, first, second, rfl, passed, h⟩
  · exact ⟨_, c', failed, by simp⟩
  · obtain ⟨rfl, rfl, _⟩ := ends_ofExcept_iff.mp h
    refine ⟨.ok directive, c₁, by rwa [List.append_nil], ?_⟩
    intro done
    cases done
    rfl

end Pass

end StorageController
