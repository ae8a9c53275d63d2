import StorageController.Pass.Measured
import StorageController.Pass.Tracing
import StorageController.Proofs.Pass.Ends

namespace StorageController.Pass

variable {α δ : Type} {c c' : Context} {tr : List Exchange} {outcome : Except Fault α}

theorem lookupD_obj (fields : Fields) (key : String) (default : Json) :
    (Json.obj fields).lookupD key default = .ok ((fields.lookup key).getD default) := rfl

theorem lookupOr_obj (fields : Fields) (key : String) (default : Json) :
    (Json.obj fields).lookupOr key default =
      .ok (((fields.lookup key).getD .null).orElse default) := rfl

theorem lookupOr_metadata {fields metadata : Fields}
    (h : fields.lookup "metadata" = some (.obj metadata)) :
    (Json.obj fields).lookupOr "metadata" (.obj []) = .ok (.obj metadata) := by
  rw [lookupOr_obj, h]
  cases metadata <;> rfl

theorem notes_logAbout [Redaction.VisitingOrder] {further : Fields} (kind name ns uid : Json)
    (report : Report) (allowed : checkNames identityParts further = .ok ()) (c : Context) :
    Notes (logAbout kind name ns uid report further) c () [] := by
  refine (Notes.ofExcept allowed c).bind fun c₁ _ => ?_
  refine (notes_context c₁).bind fun c₂ _ => ?_
  exact notes_note _ c₂

theorem notes_log [Redaction.VisitingOrder] {further : Fields} (kind : String) (metadata : Fields)
    (report : Report) (allowed : checkNames reportParts further = .ok ())
    (allowed' : checkNames identityParts further = .ok ()) (c : Context) :
    Notes (log kind (.obj metadata) report further) c () [] := by
  refine (Notes.ofExcept allowed c).bind fun c₁ _ => ?_
  have named : identity (.obj metadata) = .ok ((metadata.lookup "name").getD "unknown",
    (metadata.lookup "namespace").getD "default", (metadata.lookup "uid").getD "unknown") := rfl
  refine (Notes.ofExcept named c₁).bind fun c₂ _ => ?_
  exact notes_logAbout _ _ _ _ _ allowed' c₂

theorem notes_logInfo [Redaction.VisitingOrder] (kind : String) (metadata : Fields)
    (message event reason : String) (c : Context) :
    Notes (logInfo kind (.obj metadata) message event reason) c () [] :=
  notes_log kind metadata _ rfl rfl c

theorem checkNames_faultFields [Redaction.VisitingOrder] (fault : Fault) :
    checkNames reportParts (faultFields fault []) = .ok () ∧
      checkNames identityParts (faultFields fault []) = .ok () :=
  ⟨rfl, rfl⟩

theorem notes_logFault [Redaction.VisitingOrder] (kind : String) (metadata : Fields)
    (message : String) (fault : Fault) (reason : String) (c : Context) :
    Notes (logFault kind (.obj metadata) message fault reason) c () [] :=
  notes_log kind metadata _ (checkNames_faultFields fault).1 (checkNames_faultFields fault).2 c

theorem notes_tag (key : String) (value : Json) (c : Context) : Notes (tag key value) c () [] := by
  refine (notes_context c).bind fun c₁ _ => ?_
  split
  · exact notes_note _ c₁
  · exact Notes.pure _ c₁

theorem notes_recordOutcome (name : String) (recording : Bool) (outcome : Except Fault α)
    (c : Context) : Notes (recordOutcome name recording outcome) c () [] := by
  cases outcome with
  | ok a => exact Notes.pure _ c
  | error fault =>
    cases recording with
    | false => exact Notes.pure _ c
    | true => exact (notes_note _ c).bind fun c₁ _ => notes_note _ c₁

theorem notes_modify {change : Context → Context} (h : ∀ c : Context, c.Grows [] (change c))
    (c : Context) : Notes (modify change) c () [] :=
  ⟨change c, rfl, h c⟩

theorem Ends.of_span {name : String} {kind : Json} {attributes : Fields}
    {block : Option String → Pass α} (h : Ends (span name kind attributes block) c tr outcome c') :
    ∃ label c₁ c₂, c.Grows [] c₁ ∧ Ends (block label) c₁ tr outcome c₂ ∧ c₂.Grows [] c' := by
  obtain ⟨c₁, grows, h⟩ := h.of_notes_bind (notes_context c)
  split at h
  next => exact ⟨none, c₁, c', grows, h, .refl c'⟩
  next recording _ =>
    obtain ⟨c₂, grows₂, h⟩ := h.of_notes_bind (notes_note _ c₁)
    obtain ⟨c₃, grows₃, h⟩ := h.of_notes_bind (notes_modify (by exact fun _ => ⟨rfl, by simp⟩) c₂)
    obtain ⟨inner, c₄, first, second, rfl, hb, h⟩ := h.of_attempt_bind
    obtain ⟨c₅, grows₅, h⟩ := h.of_notes_bind (notes_recordOutcome name recording inner c₄)
    obtain ⟨c₆, grows₆, h⟩ := h.of_notes_bind (notes_modify (by exact fun _ => ⟨rfl, by simp⟩) c₅)
    obtain ⟨c₇, grows₇, h⟩ := h.of_notes_bind (notes_note _ c₆)
    obtain ⟨rfl, rfl, rfl⟩ := ends_ofExcept_iff.mp h
    rw [List.append_nil]
    exact ⟨some name, c₃, c₄, (grows.trans grows₂).trans grows₃, hb,
      (grows₅.trans grows₆).trans grows₇⟩

theorem Ends.of_span_bind {β : Type} {name : String} {kind : Json} {attributes : Fields}
    {block : Option String → Pass α} {f : α → Pass β} {outcome : Except Fault β}
    (h : Ends (span name kind attributes block >>= f) c tr outcome c') :
    ∃ label c₁ c₂ first second inner, tr = first ++ second ∧ c.Grows [] c₁ ∧
      Ends (block label) c₁ first inner c₂ ∧
      ((∃ fault, inner = .error fault ∧ outcome = .error fault ∧ second = [] ∧ c₂.Grows [] c') ∨
       ∃ a c₃, inner = .ok a ∧ c₂.Grows [] c₃ ∧ Ends (f a) c₃ second outcome c') := by
  rcases h.of_bind with ⟨fault, rfl, failed⟩ | ⟨a, c₃, first, second, rfl, done, rest⟩
  · obtain ⟨label, c₁, c₂, before, hb, after⟩ := failed.of_span
    exact ⟨label, c₁, c₂, tr, [], .error fault, (List.append_nil tr).symm, before, hb,
      Or.inl ⟨fault, rfl, rfl, rfl, after⟩⟩
  · obtain ⟨label, c₁, c₂, before, hb, after⟩ := done.of_span
    exact ⟨label, c₁, c₂, first, second, .ok a, rfl, before, hb, Or.inr ⟨a, c₃, rfl, after, rest⟩⟩

theorem Ends.of_correlated {given : Option String} {block : Pass α}
    (h : Ends (correlated given block) c tr outcome c') :
    ∃ c₁ c₂, c.Grows [] c₁ ∧ Ends block c₁ tr outcome c₂ ∧ c₂.Grows [] c' := by
  obtain ⟨c₁, grows, h⟩ := h.of_notes_bind (notes_modify (by exact fun _ => ⟨rfl, by simp⟩) c)
  obtain ⟨inner, c₂, first, second, rfl, hb, h⟩ := h.of_attempt_bind
  obtain ⟨c₃, grows₃, h⟩ := h.of_notes_bind (notes_modify (by exact fun _ => ⟨rfl, by simp⟩) c₂)
  obtain ⟨rfl, rfl, rfl⟩ := ends_ofExcept_iff.mp h
  rw [List.append_nil]
  exact ⟨c₁, c₂, grows, hb, grows₃⟩

/-- The metrics that are counted around a pass that ends with an outcome. -/
def measuredAfter (kind : String) : Except Fault (Directive δ) → List Metric
  | .ok directive => [.passDuration kind, .pass kind directive.result]
  | .error fault => [.error kind fault.kind, .pass kind "error", .passDuration kind]

theorem notes_reportEscaped [Redaction.VisitingOrder] (kind : String) (metadata : Fields)
    (fault : Fault) (c : Context) :
    Notes (reportEscaped kind (.obj metadata) fault) c ()
      [.error kind fault.kind, .pass kind "error"] := by
  refine (notes_count _ c).bind fun c₁ _ => ?_
  refine (notes_logFault kind metadata _ fault _ c₁).bind fun c₂ _ => ?_
  exact notes_count _ c₂

theorem Notes.attempt {pass : Pass α} {a : α} {counted : List Metric}
    (h : Notes pass c a counted) : Notes (attempt pass) c (.ok a) counted := by
  obtain ⟨after, eq, grows⟩ := h
  refine ⟨after, ?_, grows⟩
  rw [start_attempt, eq]
  rfl

theorem Ends.of_measured [Redaction.VisitingOrder] {kind : String} {metadata : Fields}
    {pass : Pass (Directive δ)} {outcome : Except Fault (Directive δ)}
    (h : Ends (measured kind (.obj metadata) pass) c tr outcome c') :
    ∃ c₁ c₂, c.Grows [.pass kind "started"] c₁ ∧ Ends pass c₁ tr outcome c₂ ∧
      c₂.Grows (measuredAfter kind outcome) c' := by
  obtain ⟨c₁, grows, h⟩ := h.of_notes_bind (notes_count _ c)
  obtain ⟨inner, c₂, first, second, rfl, hp, h⟩ := h.of_attempt_bind
  cases inner with
  | ok directive =>
    obtain ⟨c₃, grows₃, h⟩ := h.of_notes_bind (notes_count _ c₂)
    obtain ⟨c₄, grows₄, h⟩ := h.of_notes_bind (notes_count _ c₃)
    obtain ⟨rfl, rfl, rfl⟩ := ends_pure_iff.mp h
    rw [List.append_nil]
    exact ⟨c₁, c₂, grows, hp, grows₃.trans grows₄⟩
  | error fault =>
    obtain ⟨c₃, grows₃, h⟩ :=
      h.of_notes_bind (notes_reportEscaped kind metadata fault c₂).attempt
    obtain ⟨c₄, grows₄, h⟩ := h.of_notes_bind (notes_count _ c₃)
    obtain ⟨c₅, grows₅, h⟩ := h.of_notes_bind (Notes.ofExcept rfl c₄)
    obtain ⟨rfl, rfl, rfl⟩ := ends_throw_iff.mp h
    rw [List.append_nil]
    exact ⟨c₁, c₂, grows, hp, (grows₃.trans grows₄).trans grows₅⟩

end StorageController.Pass
