import StorageController.Proofs.Client.ReadCall
import StorageController.Proofs.Cluster.Turns
import StorageController.Proofs.Pass.Reconcile
import StorageController.Proofs.RequestRate

namespace StorageController.Client

variable {δ σ α : Type}

/-- A client at work: the server in its state, the calls so far and what was counted of them. -/
structure Session (δ σ : Type) where
  client : State δ
  server : σ
  calls : List (Call δ)
  metrics : List Metric

section

variable [Redaction.VisitingOrder]

/-- The reply that a request gets through a client. Some time may pass before it. -/
def Session.answer [Duration δ] (rate : δ) (longest : Option δ)
    (respond : Call δ → σ → Except Failure Json × σ) (elapsed : Request → σ → δ) (request : Request)
    (session : Session δ σ) : Reply × Session δ σ :=
  let waiting : State δ :=
    ⟨session.client.timeout, session.client.throttle.advance (elapsed request session.server)⟩
  let (exchanged, client, server) := perform rate waiting request respond session.server longest
  (exchanged.reply,
    ⟨client, server, session.calls ++ exchanged.call.toList, session.metrics ++ exchanged.metrics⟩)

section Refinement

variable {rate : Rat} {longest : Option Rat} {elapsed : Request → σ → Rat}
  {respond : Call Rat → σ → Except Failure Json × σ} {cluster : Request → σ → Reply × σ}

end Refinement

end

end StorageController.Client
