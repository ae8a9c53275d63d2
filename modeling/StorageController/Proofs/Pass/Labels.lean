import StorageController.Proofs.Pass.Disclosure
import StorageController.Proofs.Redaction.Plain

namespace StorageController

open Json Redaction

def LogLine.correlationId (l : LogLine) : Option Json :=
  l.fields.lookup "correlation_id"

/-- An identifier is that of the number that was drawn. -/
theorem Correlation.draw_of_identifier {c c' : Correlation} {m n : Nat}
    (h : c.identifier m = c'.identifier n) : c.draw m = c'.draw n := by
  have digits := String.ofList_injective h
  have value := congrArg Text.hexNumber digits
  simpa only [Text.hexNumber_hex] using value

variable [VisitingOrder]

theorem redact_identifier (c : Correlation) (n : Nat) :
    redact (c.identifier n) = c.identifier n :=
  Text.redact_hex 32 (c.draw n)

namespace Pass

/-! What a line is made of. -/

/-- The further members of a line leave its identifier alone. -/
def Anonymous (further : Fields) : Prop :=
  ∀ field ∈ further, field.1 ≠ "correlation_id"

omit [VisitingOrder] in
/-- A member that is given at least once, and always with the same value. -/
theorem lookup_updateFields_of_all {fields news : Fields} {key : String} {value : Json}
    (all : ∀ field ∈ news, field.1 = key → field.2 = value)
    (given : (∃ field ∈ news, field.1 = key) ∨ fields.lookup key = some value) :
    (updateFields fields news).lookup key = some value := by
  induction news generalizing fields with
  | nil =>
    obtain ⟨_, no, _⟩ | there := given
    · cases no
    · exact there
  | cons first rest ih =>
    obtain ⟨here, others⟩ := List.forall_mem_cons.mp all
    change (updateFields (setField first.1 first.2 fields) rest).lookup key = _
    refine ih others ?_
    by_cases named : first.1 = key
    · refine Or.inr ?_
      rw [lookup_setField, if_pos named.symm, here named]
    · obtain ⟨field, mem, isKey⟩ | there := given
      · rcases List.mem_cons.mp mem with rfl | later
        · exact absurd isKey named
        · exact Or.inl ⟨field, later, isKey⟩
      · refine Or.inr ?_
        rw [lookup_setField, if_neg (Ne.symm named), there]

omit [VisitingOrder] in
theorem isSensitive_correlationId : isSensitive [] "correlation_id" = false := by
  decide

/-- A line carries the innermost identifier, redacted as all its further texts are. -/
theorem lookup_describe {c : Correlation} {fields further : Fields} (anonymous : Anonymous further)
    (plain : fields.lookup "correlation_id" = none) :
    (updateFields fields (redactFields [] (c.describe further))).lookup "correlation_id" =
      c.current.map fun id => .str (redact id) := by
  cases current : c.current with
  | none =>
    have described : c.describe further = further := by rw [Correlation.describe, current]
    rw [described, lookup_updateFields_of_ne, plain]
    · rfl
    · intro field mem
      obtain ⟨name, value⟩ := field
      obtain ⟨before, inside, _⟩ := mem_redactFields mem
      exact anonymous (name, before) inside
  | some id =>
    have described : c.describe further =
        updateFields [("correlation_id", .str id)] further := by rw [Correlation.describe, current]
    have standing : (updateFields [("correlation_id", .str id)] further).lookup "correlation_id" =
        some (.str id) := by
      rw [lookup_updateFields_of_ne anonymous]
      rfl
    rw [described]
    apply lookup_updateFields_of_all
    · intro field mem named
      obtain ⟨name, value⟩ := field
      obtain ⟨before, inside, redacted⟩ := mem_redactFields mem
      cases named
      rcases mem_updateFields inside with later | first
      · exact absurd rfl (anonymous _ later)
      · cases List.mem_singleton.mp first
        exact redacted id rfl isSensitive_correlationId
    · have mem := mem_of_lookup standing
      obtain ⟨after, mem⟩ : ∃ after, ("correlation_id", after) ∈
          redactFields [] (updateFields [("correlation_id", .str id)] further) :=
        exists_mem_redactFields mem
      exact Or.inl ⟨_, mem, rfl⟩

/-! Parts of a pass. -/

/-- Since a context the identifiers in force are the same, and only lines with the innermost of them
were logged. -/
structure Labelled (c after : Context) : Prop where
  correlation : after.correlation = c.correlation
  lines : ∃ added, after.journal.logs = c.journal.logs ++ added ∧
    ∀ l ∈ added, l.correlationId = c.correlation.current.map fun id => .str (redact id)

namespace Labelled

variable {c c₁ c₂ : Context}

theorem of_same (correlation : c₁.correlation = c.correlation)
    (logs : c₁.journal.logs = c.journal.logs) : Labelled c c₁ :=
  ⟨correlation, [], by rw [logs, List.append_nil], by simp⟩

theorem refl (c : Context) : Labelled c c :=
  of_same rfl rfl

theorem trans (h : Labelled c c₁) (h' : Labelled c₁ c₂) : Labelled c c₂ := by
  obtain ⟨first, eq, each⟩ := h.lines
  obtain ⟨second, eq', each'⟩ := h'.lines
  rw [h.correlation] at each'
  refine ⟨h'.correlation.trans h.correlation, first ++ second, ?_, ?_⟩
  · rw [eq', eq, List.append_assoc]
  · exact List.forall_mem_append.mpr ⟨each, each'⟩

end Labelled

variable {α β δ : Type} {pass : Pass α} {f : α → Pass β}

def Labels (pass : Pass α) : Prop :=
  ∀ c tr outcome c', Ends pass c tr outcome c' → Labelled c c'

namespace Labels

theorem ofExcept (x : Except Fault α) : Labels (ofExcept x) := by
  intro c tr outcome c' ends
  obtain ⟨_, _, rfl⟩ := ends_ofExcept_iff.mp ends
  exact .refl c'

theorem pure (a : α) : Labels (pure a) :=
  ofExcept (.ok a)

theorem throw (fault : Fault) : Labels (throw fault : Pass α) :=
  ofExcept (.error fault)

theorem bind (h : Labels pass) (hf : ∀ a, Labels (f a)) : Labels (pass >>= f) := by
  intro c tr outcome c' ends
  rcases ends.of_bind with ⟨fault, _, failed⟩ | ⟨a, c₁, first, second, _, done, rest⟩
  · exact h _ _ _ _ failed
  · exact (h _ _ _ _ done).trans (hf a _ _ _ _ rest)

theorem attempt (h : Labels pass) : Labels (attempt pass) := by
  intro c tr outcome c' ends
  obtain ⟨inner, _, tried⟩ := ends.of_attempt
  exact h _ _ _ _ tried

theorem request (r : Request) : Labels (request r) := by
  intro c tr outcome c' ends
  obtain ⟨_, rfl⟩ := ends.of_request
  exact .refl c'

theorem context : Labels context := by
  intro c tr outcome c' ends
  obtain ⟨_, eq⟩ := Calls.ends_ret_iff.mp ends
  obtain ⟨_, rfl⟩ := Prod.mk.inj eq
  exact .refl c'

theorem modify {change : Context → Context} (h : ∀ c, Labelled c (change c)) :
    Labels (modify change) := by
  intro c tr outcome c' ends
  obtain ⟨_, eq⟩ := Calls.ends_ret_iff.mp ends
  obtain ⟨_, rfl⟩ := Prod.mk.inj eq
  exact h c

/-- A note that is no log line. -/
theorem note {n : Note} (plain : Journal.logs [n] = []) : Labels (note n) := by
  apply modify
  intro c
  refine .of_same rfl ?_
  have added : Journal.logs (c.journal ++ [n]) = c.journal.logs ++ Journal.logs [n] :=
    List.filterMap_append
  rw [added, plain, List.append_nil]

theorem count (m : Metric) : Labels (count m) :=
  note rfl

theorem emit (e : Event) : Labels (emit e) :=
  note rfl

end Labels

/-- The attempt to log a line leaves the context as it was or with the line, which the innermost
identifier is part of and which its further members follow. -/
def Lined (further : Fields) (c after : Context) : Prop :=
  after = c ∨ ∃ level fields, fields.lookup "correlation_id" = none ∧
    after = { c with journal := c.journal ++
      [.log ⟨level, updateFields fields (redactFields [] (c.correlation.describe further))⟩] }

section Line

variable {c after : Context} {tr : List Exchange} {outcome : Except Fault Unit}
  {kind metadata name ns uid : Json} {report : Report} {further : Fields}

theorem Ends.of_logAbout (h : Ends (logAbout kind name ns uid report further) c tr outcome after) :
    Lined further c after := by
  rcases h.of_ofExcept_bind with ⟨_, _, _, _, rfl⟩ | ⟨_, _, noted⟩
  · exact Or.inl rfl
  · obtain ⟨_, eq⟩ := Calls.ends_ret_iff.mp noted
    exact Or.inr ⟨_, _, rfl, (Prod.mk.inj eq).2⟩

theorem Ends.of_log (h : Ends (log kind metadata report further) c tr outcome after) :
    Lined further c after := by
  rcases h.of_ofExcept_bind with ⟨_, _, _, _, rfl⟩ | ⟨_, _, identified⟩
  · exact Or.inl rfl
  · rcases identified.of_ofExcept_bind with ⟨_, _, _, _, rfl⟩ | ⟨_, _, about⟩
    · exact Or.inl rfl
    · exact Ends.of_logAbout about

theorem Lined.grown (h : Lined further c after) : after.correlation = c.correlation ∧
    ∃ added, after.journal.logs = c.journal.logs ++ added := by
  rcases h with rfl | ⟨_, _, _, rfl⟩
  · exact ⟨rfl, [], (List.append_nil _).symm⟩
  · exact ⟨rfl, _, List.filterMap_append⟩

theorem Lined.labelled (h : Lined further c after) (anonymous : Anonymous further) :
    Labelled c after := by
  rcases h with rfl | ⟨_, fields, plain, rfl⟩
  · exact .refl after
  · refine ⟨rfl, _, List.filterMap_append, ?_⟩
    intro l mem
    cases List.mem_singleton.mp mem
    exact lookup_describe anonymous plain

theorem labels_log (anonymous : Anonymous further) : Labels (log kind metadata report further) :=
  fun _ _ _ _ ends => ends.of_log.labelled anonymous

end Line

omit [VisitingOrder] in
theorem anonymous_nil : Anonymous [] :=
  fun _ no => nomatch no

theorem labels_logInfo (kind : String) (metadata : Json) (message event reason : String) :
    Labels (logInfo kind metadata message event reason) :=
  labels_log anonymous_nil

theorem anonymous_faultFields (fault : Fault) : Anonymous (faultFields fault []) := by
  simp [Anonymous, faultFields, errorFields, updateFields, setField]

theorem labels_logFault (kind : String) (metadata : Json) (message : String) (fault : Fault)
    (reason : String) : Labels (logFault kind metadata message fault reason) :=
  labels_log (anonymous_faultFields fault)

/-! Spans. -/

theorem labels_tag (key : String) (value : Json) : Labels (tag key value) := by
  apply Labels.context.bind
  intro c
  split
  · exact .note rfl
  · exact .pure _

theorem labels_recordOutcome (name : String) (recording : Bool) (outcome : Except Fault α) :
    Labels (recordOutcome name recording outcome) := by
  cases outcome with
  | ok a => exact .pure _
  | error fault =>
    cases recording with
    | false => exact .pure _
    | true => exact (Labels.note rfl).bind fun _ => .note rfl

theorem labels_span {name : String} {kind : Json} {attributes : Fields}
    {block : Option String → Pass α} (h : ∀ label, Labels (block label)) :
    Labels (span name kind attributes block) := by
  apply Labels.context.bind
  intro c
  split
  next => exact h none
  next recording _ =>
    apply (Labels.note rfl).bind
    intro _
    refine (Labels.modify ?_).bind ?_
    · exact fun c => .of_same rfl rfl
    intro _
    apply (h (some name)).attempt.bind
    intro outcome
    apply (labels_recordOutcome name recording outcome).bind
    intro _
    refine (Labels.modify ?_).bind ?_
    · exact fun c => .of_same rfl rfl
    intro _
    apply (Labels.note rfl).bind
    intro _
    exact .ofExcept outcome

/-! Applying a topology. -/

theorem labels_finish (applied : Applied) : Labels (finish applied) :=
  (Labels.count _).bind fun _ => (labels_tag _ _).bind fun _ => .pure _

theorem labels_finishFailed (metadata : Json) (fault : Fault)
    (conflictMessage message reason : String) (attempt : Option (Json × Json)) :
    Labels (finishFailed metadata fault conflictMessage message reason attempt) := by
  unfold finishFailed
  split
  · exact (labels_logInfo _ _ _ _ _).bind fun _ => labels_finish _
  · split
    · exact (labels_logFault _ _ _ _ _).bind fun _ => labels_finish _
    · exact .throw _

theorem labels_createSet (t : Topology) (owner : Json) : Labels (createSet t owner) := by
  apply (Labels.ofExcept _).bind
  intro reference
  apply (Labels.request _).attempt.bind
  intro reply
  split
  · exact (labels_logInfo _ _ _ _ _).bind fun _ => labels_finish _
  · exact labels_finishFailed _ _ _ _ _ _

theorem labels_reportDrift (t : Topology) (live : Json) : Labels (reportDrift t live) := by
  unfold reportDrift
  split
  · exact .pure _
  · exact (Labels.count _).bind fun _ => labels_log (by simp [Anonymous])

theorem labels_patchSet (t : Topology) (live : Json) : Labels (patchSet t live) := by
  apply (labels_reportDrift t live).bind
  intro _
  split
  · exact labels_finish _
  · apply (Labels.count _).bind
    intro _
    apply (Labels.ofExcept _).bind
    intro version
    apply (Labels.request _).attempt.bind
    intro reply
    split
    · exact (labels_logInfo _ _ _ _ _).bind fun _ => labels_finish _
    · exact labels_finishFailed _ _ _ _ _ _

theorem labels_apply (t : Topology) (owner : Json) : Labels (apply t owner) := by
  apply (Labels.request _).attempt.bind
  intro reply
  split
  · exact labels_patchSet t _
  · exact labels_createSet t owner
  · split
    · exact (labels_logFault _ _ _ _ _).bind fun _ => labels_finish _
    · exact .throw _

/-! The status. -/

theorem labels_report (r : Condition.Report) (conditions : Json) : Labels (report r conditions) :=
  (Labels.context.bind fun _ => .pure _).bind fun _ => .ofExcept _

theorem labels_reportApplied (t : Topology) (applied : Applied) (counted conditions : Json) :
    Labels (reportApplied t applied counted conditions) := by
  unfold reportApplied
  split
  · exact (labels_report _ _).bind fun _ => (labels_report _ _).bind fun _ => .pure _
  · apply (labels_report _ _).bind
    intro _
    apply (Labels.ofExcept _).bind
    intro isReady
    exact (labels_report _ _).bind fun _ => .pure _

theorem labels_statusAfter (t : Topology) (applied : Applied) (conditions : Json) :
    Labels (statusAfter t applied conditions) := by
  apply (Labels.ofExcept _).bind
  intro counted
  apply (labels_reportApplied t applied counted conditions).bind
  intro ⟨reported, isReady⟩
  apply (labels_report _ _).bind
  intro after
  exact (Labels.count _).bind fun _ => .pure _

theorem labels_writeStatus (resource status : Json) (directive : Directive δ) :
    Labels (writeStatus resource status directive) := by
  apply (Labels.ofExcept _).bind
  intro metadata
  apply (Labels.ofExcept _).bind
  intro ns
  apply (Labels.ofExcept _).bind
  intro name
  apply (Labels.request _).attempt.bind
  intro reply
  split
  · exact .pure _
  · exact (labels_logInfo _ _ _ _ _).bind fun _ => .pure _
  · split
    · apply (Labels.count _).bind
      intro _
      apply (labels_logFault _ _ _ _ _).bind
      intro _
      split <;> exact .pure _
    · exact .throw _

theorem labels_reportInvalid (resource conditions : Json) (fault : Fault) :
    Labels (reportInvalid resource conditions fault : Pass (Directive δ)) := by
  apply (Labels.ofExcept _).bind
  intro metadata
  apply (Labels.ofExcept _).bind
  intro generation
  apply (Labels.count _).bind
  intro _
  apply (labels_logFault _ _ _ _ _).bind
  intro _
  apply (Labels.emit _).bind
  intro _
  apply (labels_report _ _).bind
  intro first
  apply (labels_report _ _).bind
  intro second
  exact (Labels.count _).bind fun _ => labels_writeStatus _ _ _

/-! The whole pass. -/

theorem labels_directiveFor (s : Settings δ) (resource : Json) (applied : Applied) :
    Labels (directiveFor s resource applied) := by
  apply (Labels.ofExcept _).bind
  intro metadata
  apply (Labels.ofExcept _).bind
  intro name
  cases applied with
  | created | patched => exact (Labels.emit _).bind fun _ => .pure _
  | unchanged | conflicted => exact .pure _
  | failed => exact (Labels.count _).bind fun _ => (Labels.emit _).bind fun _ => .pure _

theorem labels_applyAndReport (s : Settings δ) (resource conditions : Json) (t : Topology) :
    Labels (applyAndReport s resource conditions t) := by
  apply (labels_span fun _ => .pure _).bind
  intro _
  apply (labels_span fun _ => labels_apply t resource).bind
  intro applied
  apply (labels_directiveFor s resource applied).bind
  intro directive
  split
  · exact .pure _
  · exact (labels_statusAfter _ _ _).bind fun _ => labels_writeStatus _ _ _

theorem labels_reconcileResource (s : Settings δ) (identity resource : Json) :
    Labels (reconcileResource s identity resource) := by
  apply (Labels.ofExcept _).bind
  intro metadata
  apply (Labels.ofExcept _).bind
  intro deleted
  split
  · exact (labels_logInfo _ _ _ _ _).bind fun _ => .pure _
  · apply (Labels.emit _).bind
    intro _
    apply (Labels.ofExcept _).bind
    intro status
    apply (Labels.ofExcept _).bind
    intro conditions
    split
    · exact labels_applyAndReport _ _ _ _
    · exact labels_reportInvalid _ _ _
    · exact .throw _

theorem labels_reconcileOnce (s : Settings δ) (ns name : Json) :
    Labels (reconcileOnce s ns name) := by
  apply (Labels.request _).attempt.bind
  intro reply
  split
  · exact labels_reconcileResource _ _ _
  · exact (labels_logInfo _ _ _ _ _).bind fun _ => .pure _
  · split
    · exact (Labels.count _).bind fun _ => (labels_logFault _ _ _ _ _).bind fun _ => .pure _
    · exact .throw _

/-- A fault that escapes is logged while it is on its way. -/
theorem labels_measured {kind : String} {metadata : Json} {pass : Pass (Directive δ)}
    (h : Labels pass) : Labels (measured kind metadata pass) := by
  apply (Labels.count _).bind
  intro _
  apply h.attempt.bind
  intro outcome
  split
  next => exact (Labels.count _).bind fun _ => (Labels.count _).bind fun _ => .pure _
  next fault =>
    have reports : Labels (reportEscaped kind metadata fault) :=
      (Labels.count _).bind fun _ => (labels_logFault _ _ _ _ _).bind fun _ => .count _
    apply reports.attempt.bind
    intro reported
    apply (Labels.count _).bind
    intro _
    exact (Labels.ofExcept _).bind fun _ => .throw _

/-! Blocks. -/

variable {c c' : Context} {tr : List Exchange} {given : Option String} {outcome : Except Fault α}

omit [VisitingOrder] in
/-- A block runs with its identifier in front, which is taken away again however it ends. -/
theorem Ends.inside_of_correlated (h : Ends (correlated given pass) c tr outcome c') :
    ∃ c₂, Ends pass { c with correlation := c.correlation.enter given } tr outcome c₂ ∧
      c' = { c₂ with correlation := c₂.correlation.leave } := by
  have entered : Ends (attempt pass >>= fun outcome => do
      modify fun c => { c with correlation := c.correlation.leave }
      ofExcept outcome) { c with correlation := c.correlation.enter given } tr outcome c' := h
  obtain ⟨inner, c₂, first, second, rfl, inside, rest⟩ := entered.of_attempt_bind
  obtain ⟨rfl, rfl, rfl⟩ := ends_ofExcept_iff.mp
    (show Ends (ofExcept inner) { c₂ with correlation := c₂.correlation.leave } second outcome c'
      from rest)
  exact ⟨c₂, by rwa [List.append_nil], rfl⟩

/-- All lines of a pass carry the identifier that was generated for it, and the identifiers in force
are afterwards what they were before. -/
theorem Ends.labelled_of_reconcile {s : Settings δ} {ns name : Json}
    {outcome : Except Fault (Directive δ)} (h : Ends (reconcile s ns name) c tr outcome c') :
    c'.correlation = { c.correlation with generated := c.correlation.generated + 1 } ∧
    ∃ added, c'.journal.logs = c.journal.logs ++ added ∧ ∀ l ∈ added,
      l.correlationId =
        some (.str (c.correlation.identifier (c.correlation.generated + 1))) := by
  obtain ⟨c₂, inside, rfl⟩ := h.inside_of_correlated
  have measures : Labels (measured Cluster.storageKind (metadataOf ns name)
      (reconcileOnce s ns name)) := labels_measured (labels_reconcileOnce s ns name)
  have labelled : Labelled { c with correlation := c.correlation.enter none } c₂ := by
    refine labels_span ?_ _ _ _ _ inside
    intro _
    apply measures.bind
    intro directive
    exact (labels_tag _ _).bind fun _ => .pure directive
  obtain ⟨same, added, logged, each⟩ := labelled
  refine ⟨?_, added, logged, ?_⟩
  · rw [same]
    rfl
  · intro l mem
    rw [each l mem]
    exact congrArg (some ∘ Json.str) (redact_identifier _ _)

end Pass

end StorageController
