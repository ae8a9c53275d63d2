import StorageController.Pass.Apply
import StorageController.Proofs.Pass.Logging

namespace StorageController

def Applied.ofFault (attempt : Option (Json × Json)) (fault : Fault) : Except Fault Applied :=
  if fault.isOperator then .ok (.failed fault attempt) else .error fault

def Applied.ofWrite (done : Json → Applied) (attempt : Option (Json × Json)) :
    Reply → Except Fault Applied
  | .ok object => .ok (done object)
  | .error (.conflict message) => .ok (.conflicted (.conflict message) attempt)
  | .error fault => Applied.ofFault attempt fault

def Topology.body (t : Topology) (reference : Json) : Json :=
  Manifest.withMetadata t [("ownerReferences", .arr [reference])]

/-- The ways of applying a topology for its owner. -/
inductive Application (t : Topology) (owner : Json) :
    List Exchange → Except Fault Applied → Prop
  | unread {fault : Fault} (present : ∀ message, fault ≠ .notFound message) :
      Application t owner [⟨.readSet t.ns t.name, .error fault⟩] (Applied.ofFault none fault)
  | unowned {message : String} {fault : Fault}
      (owned : Ownership.ownerReference owner = .error fault) :
      Application t owner [⟨.readSet t.ns t.name, .error (.notFound message)⟩] (.error fault)
  | creating {message : String} {reference : Json} {reply : Reply}
      (owned : Ownership.ownerReference owner = .ok reference) :
      Application t owner
        [⟨.readSet t.ns t.name, .error (.notFound message)⟩,
         ⟨.createSet t.ns (t.body reference), reply⟩]
        (Applied.ofWrite .created none reply)
  | unchanged {live : Json} (same : Managed.patch? t.manifest live = none) :
      Application t owner [⟨.readSet t.ns t.name, .ok live⟩] (.ok (.unchanged live))
  | unversioned {live : Json} {fields : Fields} {fault : Fault}
      (differ : Managed.patch? t.manifest live = some fields)
      (versioned : Pass.versionOf live = .error fault) :
      Application t owner [⟨.readSet t.ns t.name, .ok live⟩] (.error fault)
  | patching {live version : Json} {fields : Fields} {reply : Reply}
      (differ : Managed.patch? t.manifest live = some fields)
      (versioned : Pass.versionOf live = .ok version) :
      Application t owner
        [⟨.readSet t.ns t.name, .ok live⟩,
         ⟨.patchSet t.ns t.name (Managed.guarded version fields), reply⟩]
        (Applied.ofWrite (.patched (Managed.guarded version fields))
          (some (Managed.guarded version fields, live)) reply)

theorem Application.reads {t : Topology} {owner : Json} {tr : List Exchange}
    {applied : Except Fault Applied} (h : Application t owner tr applied) :
    ∃ reply rest, tr = ⟨.readSet t.ns t.name, reply⟩ :: rest := by
  cases h <;> exact ⟨_, _, rfl⟩

theorem ownerReference_obj {fields metadata : Fields}
    (h : fields.lookup "metadata" = some (.obj metadata)) :
    Ownership.ownerReference (.obj fields) = .ok (.obj
      [("apiVersion", (fields.lookup "apiVersion").getD Cluster.apiGroupVersion),
       ("kind", (fields.lookup "kind").getD Cluster.storageKind),
       ("name", (metadata.lookup "name").getD .null),
       ("uid", (metadata.lookup "uid").getD .null),
       ("controller", .bool true), ("blockOwnerDeletion", .bool true)]) := by
  rw [Ownership.ownerReference, Pass.lookupOr_metadata h]
  rfl

theorem versionOf_obj {fields metadata : Fields}
    (h : fields.lookup "metadata" = some (.obj metadata)) :
    Pass.versionOf (.obj fields) = .ok ((metadata.lookup "resourceVersion").getD .null) := by
  rw [Pass.versionOf, Pass.lookupOr_metadata h]
  rfl

/-- The metrics of applying that ends with an outcome, but for those of drift. -/
def appliedMetrics : Except Fault Applied → List Metric
  | .ok applied => [.applied applied.outcome]
  | .error _ => []

/-- Applying counts its outcome after any drift. -/
def CountsApplied (outcome : Except Fault Applied) (counted : List Metric) : Prop :=
  ∃ drifts : List Metric, (∀ m ∈ drifts, ∃ kind resource, m = .drift kind resource) ∧
    counted = drifts ++ appliedMetrics outcome

def appliedOutcomes (counted : List Metric) : List String :=
  counted.filterMap fun
    | .applied outcome => some outcome
    | _ => none

/-- The context after a part of a pass in which these outcomes of applying were counted. -/
def Context.Applies (outcomes : List String) (c after : Context) : Prop :=
  ∃ counted, c.Grows counted after ∧ appliedOutcomes counted = outcomes

theorem appliedOutcomes_append (counted further : List Metric) :
    appliedOutcomes (counted ++ further) = appliedOutcomes counted ++ appliedOutcomes further :=
  List.filterMap_append

theorem Context.Grows.applies {c after : Context} {counted : List Metric}
    (h : c.Grows counted after) : c.Applies (appliedOutcomes counted) after :=
  ⟨counted, h, rfl⟩

theorem Context.Applies.trans {c c₁ c₂ : Context} {outcomes further : List String}
    (h : c.Applies outcomes c₁) (h' : c₁.Applies further c₂) :
    c.Applies (outcomes ++ further) c₂ := by
  obtain ⟨counted, grows, rfl⟩ := h
  obtain ⟨counted', grows', rfl⟩ := h'
  exact ⟨counted ++ counted', grows.trans grows', appliedOutcomes_append _ _⟩

theorem Context.Applies.clock {c after : Context} {outcomes : List String}
    (h : c.Applies outcomes after) : after.clock = c.clock := by
  obtain ⟨_, grows, _⟩ := h
  exact grows.clock

theorem CountsApplied.outcomes {outcome : Except Fault Applied} {counted : List Metric}
    (h : CountsApplied outcome counted) :
    appliedOutcomes counted = appliedOutcomes (appliedMetrics outcome) := by
  obtain ⟨drifts, areDrifts, rfl⟩ := h
  have none : appliedOutcomes drifts = [] := by
    refine List.filterMap_eq_nil_iff.mpr fun m hm => ?_
    obtain ⟨kind, resource, rfl⟩ := areDrifts m hm
    rfl
  rw [appliedOutcomes_append, none, List.nil_append]

theorem countsApplied_self (outcome : Except Fault Applied) :
    CountsApplied outcome (appliedMetrics outcome) :=
  ⟨[], by simp, rfl⟩

theorem countsApplied_drifts {outcome : Except Fault Applied} {drifts counted : List Metric}
    (h : ∀ m ∈ drifts, ∃ kind resource, m = .drift kind resource)
    (counts : CountsApplied outcome counted) : CountsApplied outcome (drifts ++ counted) := by
  obtain ⟨others, h', rfl⟩ := counts
  refine ⟨drifts ++ others, ?_, (List.append_assoc _ _ _).symm⟩
  intro m hm
  rcases List.mem_append.mp hm with inDrifts | inOthers
  · exact h m inDrifts
  · exact h' m inOthers

namespace Pass

variable {c c' : Context} {tr : List Exchange} {t : Topology} {owner live : Json}

theorem notes_finish (applied : Applied) (c : Context) :
    Notes (finish applied) c applied [.applied applied.outcome] := by
  refine (notes_count _ c).bind fun c₁ _ => ?_
  refine (notes_tag _ _ c₁).bind fun c₂ _ => ?_
  exact Notes.pure applied c₂

theorem Ends.of_finish {applied : Applied} {outcome : Except Fault Applied}
    (h : Ends (finish applied) c tr outcome c') :
    tr = [] ∧ outcome = .ok applied ∧ c.Grows (appliedMetrics outcome) c' := by
  obtain ⟨rfl, rfl, grows⟩ := h.of_notes (notes_finish applied c)
  exact ⟨rfl, rfl, grows⟩

variable [Redaction.VisitingOrder]

theorem Ends.of_finishFailed {ns name : Json} {fault : Fault} {s₁ s₂ s₃ : String}
    {attempt : Option (Json × Json)} {outcome : Except Fault Applied} (done : Json → Applied)
    (h : Ends (finishFailed (metadataOf ns name) fault s₁ s₂ s₃ attempt) c tr outcome c') :
    tr = [] ∧ outcome = Applied.ofWrite done attempt (.error fault) ∧
      c.Grows (appliedMetrics outcome) c' := by
  unfold finishFailed at h
  split at h
  next =>
    obtain ⟨c₁, grows, h⟩ := h.of_notes_bind (notes_logInfo _ _ _ _ _ c)
    obtain ⟨rfl, rfl, grows'⟩ := h.of_finish
    exact ⟨rfl, rfl, grows.trans grows'⟩
  next other =>
    have failed : Applied.ofWrite done attempt (.error fault) = Applied.ofFault attempt fault := by
      cases fault with
      | conflict message => exact absurd rfl (other message)
      | _ => rfl
    rw [failed]
    split at h
    next operator =>
      obtain ⟨c₁, grows, h⟩ := h.of_notes_bind (notes_logFault _ _ _ _ _ c)
      obtain ⟨rfl, rfl, grows'⟩ := h.of_finish
      exact ⟨rfl, (if_pos operator).symm, grows.trans grows'⟩
    next operator =>
      obtain ⟨rfl, rfl, rfl⟩ := ends_throw_iff.mp h
      exact ⟨rfl, (if_neg operator).symm, .refl c'⟩

theorem notes_reportDrift (t : Topology) (live : Json) (c : Context) :
    ∃ drifts, (∀ m ∈ drifts, ∃ kind resource, m = Metric.drift kind resource) ∧
      Notes (reportDrift t live) c () drifts := by
  unfold reportDrift
  split
  next => exact ⟨[], by simp, Notes.pure () c⟩
  next =>
    refine ⟨_, ?_, (notes_count _ c).bind fun c₁ _ => notes_log _ _ _ rfl rfl c₁⟩
    simp

theorem Ends.of_createSet {message : String} {outcome : Except Fault Applied}
    (h : Ends (createSet t owner) c tr outcome c') :
    Application t owner (⟨.readSet t.ns t.name, .error (.notFound message)⟩ :: tr) outcome ∧
      c.Grows (appliedMetrics outcome) c' := by
  rcases h.of_ofExcept_bind with ⟨fault, owned, rfl, rfl, rfl⟩ | ⟨reference, owned, h⟩
  · exact ⟨.unowned owned, .refl c'⟩
  obtain ⟨reply, rest, rfl, answered⟩ := h.of_ask_bind
  cases reply with
  | ok created =>
    obtain ⟨c₁, grows, logged⟩ := answered.of_notes_bind (notes_logInfo _ _ _ _ _ c)
    obtain ⟨rfl, rfl, grows'⟩ := logged.of_finish
    exact ⟨.creating owned, grows.trans grows'⟩
  | error fault =>
    obtain ⟨rfl, rfl, grows⟩ := answered.of_finishFailed .created
    exact ⟨.creating owned, grows⟩

theorem Ends.of_patchSet {outcome : Except Fault Applied}
    (h : Ends (patchSet t live) c tr outcome c') :
    Application t owner (⟨.readSet t.ns t.name, .ok live⟩ :: tr) outcome ∧
      ∃ counted, CountsApplied outcome counted ∧ c.Grows counted c' := by
  obtain ⟨drifts, areDrifts, notes⟩ := notes_reportDrift t live c
  obtain ⟨c₁, grows, h⟩ := h.of_notes_bind notes
  -- What is counted after the drift of immutable fields is preceded by it.
  suffices rest : Application t owner (⟨.readSet t.ns t.name, .ok live⟩ :: tr) outcome ∧
      ∃ counted, CountsApplied outcome counted ∧ c₁.Grows counted c' by
    obtain ⟨way, counted, counts, grows'⟩ := rest
    exact ⟨way, drifts ++ counted, countsApplied_drifts areDrifts counts, grows.trans grows'⟩
  split at h
  next same =>
    obtain ⟨rfl, rfl, grows⟩ := h.of_finish
    exact ⟨.unchanged same, _, countsApplied_self _, grows⟩
  next fields differ =>
    obtain ⟨c₂, grows₂, h⟩ := h.of_notes_bind (notes_count _ c₁)
    have drift : ∀ m ∈ [Metric.drift Cluster.storageKind Cluster.setKind],
        ∃ kind resource, m = .drift kind resource := by simp
    rcases h.of_ofExcept_bind with ⟨fault, versioned, rfl, rfl, rfl⟩ | ⟨version, versioned, h⟩
    · exact ⟨.unversioned differ versioned, _, countsApplied_drifts drift (countsApplied_self _),
        grows₂.trans (.refl c')⟩
    obtain ⟨reply, rest, rfl, answered⟩ := h.of_ask_bind
    cases reply with
    | ok patched =>
      obtain ⟨c₃, grows₃, logged⟩ := answered.of_notes_bind (notes_logInfo _ _ _ _ _ c₂)
      obtain ⟨rfl, rfl, grows₄⟩ := logged.of_finish
      exact ⟨.patching differ versioned, _, countsApplied_drifts drift (countsApplied_self _),
        grows₂.trans (grows₃.trans grows₄)⟩
    | error fault =>
      obtain ⟨rfl, rfl, grows₃⟩ :=
        answered.of_finishFailed (.patched (Managed.guarded version fields))
      exact ⟨.patching differ versioned, _, countsApplied_drifts drift (countsApplied_self _),
        grows₂.trans grows₃⟩

/-- Applying a topology goes one of the ways of `Application`. -/
theorem Ends.of_apply {outcome : Except Fault Applied} (h : Ends (apply t owner) c tr outcome c') :
    Application t owner tr outcome ∧ ∃ counted, CountsApplied outcome counted ∧
      c.Grows counted c' := by
  obtain ⟨reply, rest, rfl, answered⟩ := h.of_ask_bind
  split at answered
  next live => exact answered.of_patchSet
  next message =>
    obtain ⟨way, grows⟩ := answered.of_createSet
    exact ⟨way, _, countsApplied_self _, grows⟩
  next fault other =>
    have present : ∀ message, fault ≠ .notFound message := by
      intro message eq
      subst eq
      exact other message rfl
    split at answered
    next operator =>
      obtain ⟨c₁, grows, logged⟩ := answered.of_notes_bind (notes_logFault _ _ _ _ _ c)
      obtain ⟨rfl, rfl, grows'⟩ := logged.of_finish
      refine ⟨?_, _, countsApplied_self _, grows.trans grows'⟩
      have failed : Applied.ofFault none fault = .ok (.failed fault none) := if_pos operator
      rw [← failed]
      exact .unread present
    next operator =>
      obtain ⟨rfl, rfl, rfl⟩ := ends_throw_iff.mp answered
      refine ⟨?_, _, countsApplied_self _, .refl c'⟩
      have failed : Applied.ofFault none fault = .error fault := if_neg operator
      rw [← failed]
      exact .unread present

end Pass

end StorageController
