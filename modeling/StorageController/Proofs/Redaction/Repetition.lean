import StorageController.Proofs.Pass.Labels

namespace StorageController

open Json Redaction

section

variable [VisitingOrder]

theorem redactMember_redactMember {keys : List String} {value : Json}
    (settled : redactValue keys (redactValue keys value) = redactValue keys value) (name : String) :
    redactMember keys name (redactMember keys name value) = redactMember keys name value := by
  by_cases sensitive : Sensitive keys name
  · rw [redactMember_of_sensitive sensitive, redactMember_of_sensitive sensitive]
  · rw [redactMember_of_insensitive sensitive, redactMember_of_insensitive sensitive, settled]

theorem redactValue_redactValue (keys : List String) (value : Json) :
    redactValue keys (redactValue keys value) = redactValue keys value := by
  induction value using documentInduction with
  | scalar value isScalar =>
    cases value with
    | str s => exact congrArg Json.str (redact_redact s)
    | arr | obj => cases isScalar
    | _ => rfl
  | arr items => rfl
  | obj fields ih =>
    change Json.obj (redactFields keys (redactFields keys fields)) = .obj (redactFields keys fields)
    rw [redactFields_eq_map keys (redactFields keys fields), redactFields_eq_map, List.map_map]
    refine congrArg Json.obj (List.map_congr_left fun field mem => ?_)
    rw [Function.comp, redactMember_redactMember (ih field mem)]

/-- A redacted document is not changed by redacting it again. -/
theorem redactFields_redactFields (keys : List String) (fields : Fields) :
    redactFields keys (redactFields keys fields) = redactFields keys fields :=
  Json.obj.inj (redactValue_redactValue keys (.obj fields))

namespace Pass

theorem describe_faultFields (c : Correlation) (fault : Fault) :
    c.describe (faultFields fault []) =
      c.current.toList.map (fun id => ("correlation_id", Json.str id)) ++
        [("error", .str (redactFault fault)), ("error_type", .str fault.kind)] := by
  rw [Correlation.describe]
  cases c.current <;> rfl

/-- The text of a fault is what it was before the members of the line were redacted. -/
theorem lookup_error (c : Correlation) (fields : Fields) (fault : Fault) :
    (updateFields fields (redactFields [] (c.describe (faultFields fault [])))).lookup "error" =
      some (.str (redactFault fault)) := by
  apply lookup_updateFields_of_all
  · rintro ⟨name, value⟩ mem rfl
    obtain ⟨before, inside, redacted⟩ := mem_redactFields mem
    rw [describe_faultFields] at inside
    obtain rfl : before = .str (redactFault fault) := by simpa using inside
    rw [redacted _ rfl isSensitive_error, redactFault, redact_redact]
  · have given : ("error", .str (redactFault fault)) ∈ c.describe (faultFields fault []) := by
      rw [describe_faultFields]
      simp
    obtain ⟨value, mem⟩ : ∃ value, ("error", value) ∈
        redactFields [] (c.describe (faultFields fault [])) := exists_mem_redactFields given
    exact Or.inl ⟨_, mem, rfl⟩

/-- A line about a fault tells of it in the words in which events and conditions do. -/
theorem start_logFault (kind : String) (metadata : Fields) (message reason : String) (fault : Fault)
    (c : Context) : ∃ line : LogLine,
      (logFault kind (.obj metadata) message fault reason).start c =
        .ret (.ok (), { c with journal := c.journal ++ [.log line] }) ∧
      line.fields.lookup "error" = some (.str (redactFault fault)) :=
  ⟨_, rfl, lookup_error c.correlation _ fault⟩

end Pass

/-- Redaction in any order of the sensitive fields is settled after one time, of messages as well as
of documents, and so a line about a fault, which is redacted twice, tells of it in the words in which
events and conditions do. -/
theorem redaction_idempotent {fields : List String} (order : fields.Perm sensitiveFields) :
    (∀ message, redactWith fields (redactWith fields message) = redactWith fields message) ∧
      (∀ kind metadata text reason fault (c : Context), ∃ line : LogLine,
        (Pass.logFault kind (.obj metadata) text fault reason).start c =
          .ret (.ok (), { c with journal := c.journal ++ [.log line] }) ∧
        line.fields.lookup "error" = some (.str (redactFault fault))) ∧
      ∀ keys document, redactFields keys (redactFields keys document) = redactFields keys document :=
  ⟨redactWith_redactWith fun _ mem => order.subset mem,
    fun kind metadata text reason fault c => Pass.start_logFault kind metadata text reason fault c,
    redactFields_redactFields⟩

end

open TokenFirst in
theorem redaction_idempotent_nested :
    redactWith ["token", "secret", "credentials", "password"]
        (redactWith ["token", "secret", "credentials", "password"]
          "secret token: abc, Bearer password=x") =
      redactWith ["token", "secret", "credentials", "password"]
        "secret token: abc, Bearer password=x" ∧
    ∃ line : LogLine,
      (Pass.logFault "SwiftStorage" (.obj []) "Reconciliation failed"
          (.operator "secret token: abc") "ReconcileFailed").start ⟨0, {}, .off, [], []⟩ =
        .ret (.ok (), ⟨0, {}, .off, [], [.log line]⟩) ∧
      line.fields.lookup "error" = some (.str "secret: [REDACTED] [REDACTED]") := by
  have order : ["token", "secret", "credentials", "password"].Perm sensitiveFields := by decide
  have masked : redactFault (.operator "secret token: abc") =
      "secret: [REDACTED] [REDACTED]" := by
    decide +kernel
  have settled := redaction_idempotent order
  refine ⟨settled.1 _, ?_⟩
  rw [← masked]
  exact settled.2.1 "SwiftStorage" [] "Reconciliation failed" "ReconcileFailed" _ ⟨0, {}, .off, [], []⟩

end StorageController
