import StorageController.Proofs.Pass.Reconcile

namespace StorageController

def Request.IsStatus (r : Request) : Prop :=
  ∃ ns name status, r = .patchStatus ns name status

theorem isStatus_iff {r : Request} :
    r.IsStatus ↔ r.operation = "patch_swift_storage_status" := by
  cases r <;> simp [Request.IsStatus, Request.operation]

instance (r : Request) : Decidable r.IsStatus :=
  decidable_of_iff _ isStatus_iff.symm

namespace Pass

variable {α β δ : Type} {R : Context → List Exchange → Context → Prop}
  {c c' : Context} {tr : List Exchange}

/-- A relation holds between the context before a part of a pass, its exchanges and the context after
it, however the requests are answered. -/
def Within (R : Context → List Exchange → Context → Prop) (pass : Pass α) : Prop :=
  ∀ c tr outcome c', Ends pass c tr outcome c' → R c tr c'

/-- A relation that holds of doing nothing, of one part after another, and of noting anything but the
outcome of applying. -/
structure Composes (R : Context → List Exchange → Context → Prop) : Prop where
  done : ∀ c, R c [] c
  append : ∀ {c c₁ c' first second}, R c first c₁ → R c₁ second c' → R c (first ++ second) c'
  note : ∀ c n, appliedOutcomes (Journal.metrics [n]) = [] →
    R c [] { c with journal := c.journal ++ [n] }

namespace Within

theorem ofExcept (law : Composes R) (x : Except Fault α) : Within R (ofExcept x) := by
  intro c tr outcome c' ends
  obtain ⟨rfl, _, rfl⟩ := ends_ofExcept_iff.mp ends
  exact law.done c'

theorem pure (law : Composes R) (a : α) : Within R (pure a) :=
  ofExcept law (.ok a)

theorem throw (law : Composes R) (fault : Fault) : Within R (throw fault : Pass α) :=
  ofExcept law (.error fault)

theorem bind (law : Composes R) {pass : Pass α} {f : α → Pass β} (h : Within R pass)
    (hf : ∀ a, Within R (f a)) : Within R (pass >>= f) := by
  intro c tr outcome c' ends
  rcases ends.of_bind with ⟨fault, _, failed⟩ | ⟨a, c₁, first, second, rfl, done, rest⟩
  · exact h _ _ _ _ failed
  · exact law.append (h _ _ _ _ done) (hf a _ _ _ _ rest)

theorem context (law : Composes R) : Within R context := by
  intro c tr outcome c' ends
  obtain ⟨rfl, eq⟩ := Calls.ends_ret_iff.mp ends
  obtain ⟨_, rfl⟩ := Prod.mk.inj eq
  exact law.done c'

theorem note (law : Composes R) {n : Note} (plain : appliedOutcomes (Journal.metrics [n]) = []) :
    Within R (note n) := by
  intro c tr outcome c' ends
  obtain ⟨rfl, eq⟩ := Calls.ends_ret_iff.mp ends
  obtain ⟨_, rfl⟩ := Prod.mk.inj eq
  exact law.note c n plain

theorem ask {r : Request} (asked : ∀ c reply, R c [⟨r, reply⟩] c) :
    Within R (attempt (request r)) := by
  intro c tr outcome c' ends
  obtain ⟨inner, _, answered⟩ := ends.of_attempt
  obtain ⟨rfl, rfl⟩ := answered.of_request
  exact asked c' inner

theorem log [Redaction.VisitingOrder] (law : Composes R) (kind : String) (metadata : Json)
    (report : Report) (further : Fields) : Within R (log kind metadata report further) := by
  refine (ofExcept law _).bind law fun _ => (ofExcept law _).bind law fun _ => ?_
  refine (ofExcept law _).bind law fun _ => (context law).bind law fun _ => ?_
  exact note law rfl

theorem report (law : Composes R) (r : Condition.Report) (conditions : Json) :
    Within R (report r conditions) :=
  ((context law).bind law fun _ => pure law _).bind law fun _ => ofExcept law _

theorem reportApplied [Redaction.VisitingOrder] (law : Composes R) (t : Topology)
    (applied : Applied) (counted conditions : Json) :
    Within R (reportApplied t applied counted conditions) := by
  cases applied with
  | failed fault attempt =>
    refine (report law _ _).bind law fun _ => (report law _ _).bind law fun _ => ?_
    exact pure law _
  | _ =>
    refine (report law _ _).bind law fun _ => (ofExcept law _).bind law fun _ => ?_
    exact (report law _ _).bind law fun _ => pure law _

theorem statusAfter [Redaction.VisitingOrder] (law : Composes R) (t : Topology) (applied : Applied)
    (conditions : Json) :
    Within R (statusAfter t applied conditions) := by
  refine (ofExcept law _).bind law fun _ => (reportApplied law _ _ _ _).bind law fun _ => ?_
  refine (report law _ _).bind law fun _ => (note law rfl).bind law fun _ => ?_
  exact pure law _

theorem writeStatus [Redaction.VisitingOrder] (law : Composes R)
    (asked : ∀ c ns name status reply, R c [⟨.patchStatus ns name status, reply⟩] c)
    (resource status : Json) (directive : Directive δ) :
    Within R (writeStatus resource status directive) := by
  refine (ofExcept law _).bind law fun metadata => (ofExcept law _).bind law fun ns => ?_
  refine (ofExcept law _).bind law fun name => ?_
  refine (ask fun c reply => asked c ns name status reply).bind law fun reply => ?_
  split
  · exact pure law _
  · exact (log law _ _ _ _).bind law fun _ => pure law _
  · split
    · refine (note law rfl).bind law fun _ => (log law _ _ _ _).bind law fun _ => ?_
      split <;> exact pure law _
    · exact throw law _

theorem reportInvalid [Redaction.VisitingOrder] (law : Composes R)
    (asked : ∀ c ns name status reply, R c [⟨.patchStatus ns name status, reply⟩] c)
    (resource conditions : Json) (fault : Fault) :
    Within R (reportInvalid resource conditions fault : Pass (Directive δ)) := by
  refine (ofExcept law _).bind law fun metadata => (ofExcept law _).bind law fun generation => ?_
  refine (note law rfl).bind law fun _ => (log law _ _ _ _).bind law fun _ => ?_
  refine (note law rfl).bind law fun _ => (report law _ _).bind law fun _ => ?_
  refine (report law _ _).bind law fun _ => (note law rfl).bind law fun _ => ?_
  exact writeStatus law asked _ _ _

end Within

def Quiet (pass : Pass α) : Prop :=
  Within (fun _ tr _ => tr = []) pass

theorem composes_quiet : Composes fun _ tr _ => tr = [] where
  done _ := rfl
  append first second := List.append_eq_nil_iff.mpr ⟨first, second⟩
  note _ _ _ := rfl

theorem Quiet.pure (a : α) : Quiet (pure a) :=
  Within.pure composes_quiet a

theorem Quiet.throw (fault : Fault) : Quiet (throw fault : Pass α) :=
  Within.throw composes_quiet fault

theorem Quiet.bind {pass : Pass α} {f : α → Pass β} (h : Quiet pass) (hf : ∀ a, Quiet (f a)) :
    Quiet (pass >>= f) :=
  Within.bind composes_quiet h hf

theorem Quiet.note (n : Note) : Quiet (note n) := by
  intro c tr outcome c' ends
  exact (ends.of_notes (notes_note n c)).1

theorem quiet_log [Redaction.VisitingOrder] (kind : String) (metadata : Json) (report : Report)
    (further : Fields) :
    Quiet (log kind metadata report further) :=
  Within.log composes_quiet kind metadata report further

theorem quiet_statusAfter [Redaction.VisitingOrder] (t : Topology) (applied : Applied)
    (conditions : Json) :
    Quiet (statusAfter t applied conditions) :=
  Within.statusAfter composes_quiet t applied conditions

/-- Nothing is asked but to write the status, and no outcome of applying is counted. -/
structure OnlyReports (c : Context) (tr : List Exchange) (c' : Context) : Prop where
  statuses : ∀ e ∈ tr, e.request.IsStatus
  outcomes : c.Applies [] c'

theorem composes_onlyReports : Composes OnlyReports where
  done c := ⟨by simp, (Context.Grows.refl c).applies⟩
  append first second :=
    ⟨List.forall_mem_append.mpr ⟨first.statuses, second.statuses⟩,
      first.outcomes.trans second.outcomes⟩
  note c n plain := by
    obtain ⟨after, eq, grows⟩ := notes_note n c
    obtain ⟨_, rfl⟩ := Prod.mk.inj (Calls.ret.inj eq)
    exact ⟨by simp, plain ▸ grows.applies⟩

theorem onlyReports_nothing (h : c.Applies [] c') : OnlyReports c [] c' :=
  ⟨by simp, h⟩

theorem onlyReports_status (c : Context) (ns name status : Json) (reply : Reply) :
    OnlyReports c [⟨.patchStatus ns name status, reply⟩] c :=
  ⟨List.forall_mem_singleton.mpr ⟨ns, name, status, rfl⟩, (Context.Grows.refl c).applies⟩

/-- A pass that reads a StatefulSet: the resource was read before, the topology in it is applied, and
then nothing but the status is written, or nothing at all after a conflict. -/
def Applies (s : Settings δ) (ns name : Json) (c : Context) (tr : List Exchange)
    (outcome : Except Fault (Directive δ)) (c' : Context) : Prop :=
  ∃ resource t applying applied rest,
    tr = ⟨.readStorage ns name, .ok resource⟩ :: (applying ++ rest) ∧
    Topology.ofResource resource = .ok t ∧ Application t resource applying applied ∧
    (∀ e ∈ rest, e.request.IsStatus) ∧
    (∀ fault attempt, applied = .ok (.conflicted fault attempt) →
      rest = [] ∧ outcome = .ok (.requeueAfter s.conflictRequeueDelay)) ∧
    c.Applies (appliedOutcomes (appliedMetrics applied)) c'

theorem Applies.of_applies {s : Settings δ} {ns name : Json} {c₁ : Context}
    {outcome : Except Fault (Directive δ)} (h : Applies s ns name c₁ tr outcome c')
    (before : c.Applies [] c₁) : Applies s ns name c tr outcome c' := by
  obtain ⟨resource, t, applying, applied, rest, eq, accepted, way, statuses, conflict, after⟩ := h
  exact ⟨resource, t, applying, applied, rest, eq, accepted, way, statuses, conflict,
    before.trans after⟩

theorem Ends.applies_of_applyAndReport [Redaction.VisitingOrder] {s : Settings δ}
    {ns name resource conditions : Json} {metadata : Fields} {t : Topology}
    {outcome : Except Fault (Directive δ)}
    (h : Ends (applyAndReport s resource conditions t) c tr outcome c')
    (found : metadataIn resource = .ok (.obj metadata))
    (accepted : Topology.ofResource resource = .ok t) :
    Applies s ns name c (⟨.readStorage ns name, .ok resource⟩ :: tr) outcome c' := by
  obtain ⟨applying, rest, applied, rfl, way, h⟩ := h.steps_of_applyAndReport found
  refine ⟨resource, t, applying, applied, rest, rfl, accepted, way, ?_⟩
  rcases h with ⟨fault, rfl, rfl, _, applies⟩ | ⟨_, _, rfl, rfl, ended, applies⟩ |
    ⟨a, _, rfl, settled, applies, h⟩
  · refine ⟨by simp, ?_, applies⟩
    intro _ _ no
    cases no
  · exact ⟨by simp, fun _ _ _ => ⟨rfl, ended⟩, applies⟩
  · have law := composes_onlyReports
    have reports := ((Within.statusAfter law _ _ _).bind law fun status =>
      Within.writeStatus law onlyReports_status resource status _) _ _ _ _ h
    refine ⟨reports.statuses, ?_, applies.trans reports.outcomes⟩
    intro fault attempt conflict
    exact absurd (Except.ok.inj conflict) (settled fault attempt)

/-- Where a lookup in the metadata, or in the identity in their place, succeeds, the metadata are an
object, or stand for nothing. -/
theorem metadataIn_of_lookup {resource inside deleted ns name : Json}
    (present : resource.lookupOr "metadata" (metadataOf ns name) = .ok inside)
    (looked : inside.lookupD "deletionTimestamp" .null = .ok deleted) :
    ∃ metadata, metadataIn resource = .ok (.obj metadata) := by
  cases resource with
  | obj fields =>
    rw [lookupOr_obj, Json.orElse] at present
    rw [metadataIn, lookupOr_obj, Json.orElse]
    by_cases truthy : ((fields.lookup "metadata").getD .null).truthy = true
    · rw [if_pos truthy] at present ⊢
      cases present
      cases hm : (fields.lookup "metadata").getD .null with
      | obj metadata => exact ⟨metadata, rfl⟩
      | _ => rw [hm] at looked; cases looked
    · exact ⟨[], by rw [if_neg truthy]⟩
  | _ => cases present

theorem Ends.asks_of_reconcileResource [Redaction.VisitingOrder] {s : Settings δ}
    {ns name resource : Json} {outcome : Except Fault (Directive δ)}
    (h : Ends (reconcileResource s (metadataOf ns name) resource) c tr outcome c') :
    OnlyReports c tr c' ∨
      Applies s ns name c (⟨.readStorage ns name, .ok resource⟩ :: tr) outcome c' := by
  have law := composes_onlyReports
  rcases h.of_ofExcept_bind with ⟨_, _, rfl, _, rfl⟩ | ⟨inside, present, h⟩
  · exact Or.inl (law.done c')
  rcases h.of_ofExcept_bind with ⟨_, _, rfl, _, rfl⟩ | ⟨deleted, looked, h⟩
  · exact Or.inl (law.done c')
  obtain ⟨metadata, found⟩ := metadataIn_of_lookup present looked
  split at h
  · exact Or.inl (((Within.log law _ _ _ _).bind law fun _ => Within.pure law _) _ _ _ _ h)
  obtain ⟨c₁, grows, h⟩ := h.of_notes_bind (notes_emit _ c)
  -- The event before the status is looked at is no outcome, so it makes no difference to either side.
  suffices rest : OnlyReports c₁ tr c' ∨
      Applies s ns name c₁ (⟨.readStorage ns name, .ok resource⟩ :: tr) outcome c' from
    rest.imp (law.append (onlyReports_nothing grows.applies)) (·.of_applies grows.applies)
  rcases h.of_ofExcept_bind with ⟨_, _, rfl, _, rfl⟩ | ⟨status, _, h⟩
  · exact Or.inl (law.done c')
  rcases h.of_ofExcept_bind with ⟨_, _, rfl, _, rfl⟩ | ⟨conditions, _, h⟩
  · exact Or.inl (law.done c')
  split at h
  next t accepted => exact Or.inr (h.applies_of_applyAndReport found accepted)
  next => exact Or.inl (Within.reportInvalid law onlyReports_status _ _ _ _ _ _ _ h)
  next => exact Or.inl (Within.throw law _ _ _ _ _ h)

/-- A pass reads its resource; then it writes nothing but the status, or it applies a topology. -/
theorem Ends.asks_of_reconcile [Redaction.VisitingOrder] {s : Settings δ} {ns name : Json}
    {outcome : Except Fault (Directive δ)} (h : Ends (reconcile s ns name) c tr outcome c') :
    (∃ reply rest, tr = ⟨.readStorage ns name, reply⟩ :: rest ∧
      (∀ e ∈ rest, e.request.IsStatus) ∧ c.Applies [] c') ∨
      Applies s ns name c tr outcome c' := by
  have law := composes_onlyReports
  obtain ⟨c₁, c₂, before, once, after⟩ := h.once_of_reconcile
  obtain ⟨reply, rest, rfl, answered⟩ := once.of_ask_bind
  suffices answered : OnlyReports c₁ rest c₂ ∨
      Applies s ns name c₁ (⟨.readStorage ns name, reply⟩ :: rest) outcome c₂ by
    rcases answered with reports | applies
    · exact Or.inl ⟨reply, rest, rfl, reports.statuses, (before.trans reports.outcomes).trans after⟩
    · obtain ⟨resource, t, applying, applied, statuses, eq, accepted, way, are, conflict, counts⟩ :=
        applies.of_applies before
      exact Or.inr ⟨resource, t, applying, applied, statuses, eq, accepted, way, are, conflict,
        List.append_nil (appliedOutcomes _) ▸ counts.trans after⟩
  split at answered
  next resource => exact answered.asks_of_reconcileResource
  next =>
    exact Or.inl (((Within.log law _ _ _ _).bind law fun _ => Within.pure law _) _ _ _ _ answered)
  next fault _ =>
    split at answered
    · exact Or.inl (((Within.note law rfl).bind law fun _ => (Within.log law _ _ _ _).bind law
        fun _ => Within.pure law _) _ _ _ _ answered)
    · exact Or.inl (Within.throw law _ _ _ _ _ answered)

end Pass

end StorageController
