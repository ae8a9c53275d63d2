import StorageController.Proofs.Json.WellFormed
import StorageController.Proofs.Pass.Statuses
import StorageController.Proofs.Redaction.Document
import StorageController.Proofs.Redaction.Idempotence

namespace StorageController

open Redaction

variable [VisitingOrder]

/-- The text is the redacted message of one of the faults, after a fixed text. -/
def Sanitized (known : Fault → Prop) (lead text : String) : Prop :=
  ∃ fault, known fault ∧ text = lead ++ redactFault fault

theorem Sanitized.plain {known : Fault → Prop} {fault : Fault} (h : known fault) :
    Sanitized known "" (redactFault fault) :=
  ⟨fault, h, String.empty_append.symm⟩

/-- The messages of log lines that say nothing about the fault. -/
def logTexts : List String :=
  ["SwiftStorage not found, nothing to do", "Failed to fetch SwiftStorage",
   "SwiftStorage is being deleted, skipping", "SwiftStorage spec is invalid",
   "Failed to read StatefulSet", "StatefulSet created",
   "StatefulSet created concurrently, retrying", "Failed to create StatefulSet",
   "Immutable StatefulSet fields differ from the desired state and are left as is",
   "StatefulSet patched", "StatefulSet changed concurrently, retrying",
   "Failed to patch StatefulSet", "SwiftStorage deleted before status update",
   "Failed to update SwiftStorage status", "Reconciliation failed",
   "SwiftStorage not found, no pass requested"]

def triggerLead : String := "Failed to request a pass for the owner: "

structure LogLine.Sanitized (known : Fault → Prop) (l : LogLine) : Prop where
  error : ∀ value, l.fields.lookup "error" = some value →
    ∃ text, value = .str text ∧ StorageController.Sanitized known "" text
  message : ∃ text, l.fields.lookup "message" = some (.str text) ∧
    (text ∈ logTexts ∨ StorageController.Sanitized known triggerLead text)

/-- A warning tells of a fault; an event that is no warning tells of none. -/
def Event.Sanitized (known : Fault → Prop) (e : Event) : Prop :=
  e.warning = true → StorageController.Sanitized known "" e.message ∨
    StorageController.Sanitized known "Reconciliation failed: " e.message

def Note.Sanitized (known : Fault → Prop) : Note → Prop
  | .log l => l.Sanitized known
  | .event e => e.Sanitized known
  | _ => True

/-- The faults among some exchanges: those that the cluster answered, and those of a resource that is
refused. -/
def Met (tr : List Exchange) (fault : Fault) : Prop :=
  ∃ e ∈ tr, e.reply = .error fault ∨
    ∃ resource, e.reply = .ok resource ∧ Topology.ofResource resource = .error fault

omit [VisitingOrder] in
theorem Met.mono {tr tr' : List Exchange} {fault : Fault} (met : Met tr fault)
    (within : ∀ e ∈ tr, e ∈ tr') : Met tr' fault := by
  obtain ⟨e, mem, how⟩ := met
  exact ⟨e, within e mem, how⟩

/-- The faults that a part of a pass may tell of: those that it meets and the one that ends it. -/
def Raised {α : Type} (tr : List Exchange) (outcome : Except Fault α) (fault : Fault) : Prop :=
  Met tr fault ∨ outcome = .error fault

omit [VisitingOrder] in
theorem Raised.mono {α β : Type} {tr tr' : List Exchange} {inner : Except Fault α}
    {outcome : Except Fault β} {fault : Fault} (raised : Raised tr inner fault)
    (within : ∀ e ∈ tr, e ∈ tr') (ended : inner = .error fault → Raised tr' outcome fault) :
    Raised tr' outcome fault :=
  raised.elim (fun met => Or.inl (met.mono within)) ended

omit [VisitingOrder] in
theorem not_raised_nil {α : Type} {a : α} {fault : Fault} : ¬ Raised [] (.ok a) fault := by
  rintro (⟨_, no, _⟩ | no) <;> cases no

/-- What was noted since tells of no fault but known ones, and those it redacts. -/
def Context.Tells (known : Fault → Prop) (c after : Context) : Prop :=
  ∃ notes, after.journal = c.journal ++ notes ∧ ∀ n ∈ notes, n.Sanitized known

namespace Context.Tells

variable {known : Fault → Prop} {c c₁ c₂ : Context}

theorem refl (c : Context) : c.Tells known c :=
  ⟨[], (List.append_nil _).symm, by simp⟩

theorem trans (h : c.Tells known c₁) (h' : c₁.Tells known c₂) : c.Tells known c₂ := by
  obtain ⟨first, eq, each⟩ := h
  obtain ⟨second, eq', each'⟩ := h'
  exact ⟨first ++ second, by rw [eq', eq, List.append_assoc],
    List.forall_mem_append.mpr ⟨each, each'⟩⟩

theorem of_journal (h : c₁.journal = c.journal) : c.Tells known c₁ :=
  ⟨[], by rw [h, List.append_nil], by simp⟩

end Context.Tells

namespace Pass

variable {α β δ : Type} {known : Fault → Prop} {P : α → Prop} {Q : β → Prop} {pass : Pass α}
  {f : α → Pass β} {c c' : Context} {tr : List Exchange}

/-- What a part of a pass notes is redacted, and its result is as it should be. -/
def Tells (known : Fault → Prop) (P : α → Prop) (pass : Pass α) : Prop :=
  ∀ c tr outcome c', Ends pass c tr outcome c' → (∀ fault, Raised tr outcome fault → known fault) →
    c.Tells known c' ∧ ∀ a, outcome = .ok a → P a

theorem tells_ofExcept {x : Except Fault α} (h : ∀ a, x = .ok a → P a) :
    Tells known P (ofExcept x) := by
  intro c tr outcome c' ends _
  obtain ⟨rfl, rfl, rfl⟩ := ends_ofExcept_iff.mp ends
  exact ⟨.refl c', h⟩

theorem tells_pure {a : α} (h : P a) : Tells known P (pure a) :=
  tells_ofExcept (by rintro _ ⟨⟩; exact h)

theorem tells_throw (fault : Fault) : Tells known P (throw fault) :=
  tells_ofExcept (by rintro _ ⟨⟩)

theorem tells_look (x : Except Fault α) : Tells known (fun _ => True) (ofExcept x) :=
  tells_ofExcept fun _ _ => trivial

theorem Tells.bind (h : Tells known P pass) (hf : ∀ a, P a → Tells known Q (f a)) :
    Tells known Q (pass >>= f) := by
  intro c tr outcome c' ends covers
  rcases ends.of_bind with ⟨fault, rfl, failed⟩ | ⟨a, c₁, first, second, rfl, done, rest⟩
  · obtain ⟨told, _⟩ := h _ _ _ _ failed fun other raised =>
      covers other (raised.mono (fun _ mem => mem) (by rintro ⟨⟩; exact Or.inr rfl))
    exact ⟨told, by rintro _ ⟨⟩⟩
  · obtain ⟨told, good⟩ := h _ _ _ _ done fun other raised =>
      covers other (raised.mono (fun _ => List.mem_append_left _) (by rintro ⟨⟩))
    obtain ⟨told', good'⟩ := hf a (good a rfl) _ _ _ _ rest fun other raised =>
      covers other (raised.mono (fun _ => List.mem_append_right _) Or.inr)
    exact ⟨told.trans told', good'⟩

theorem tells_note {n : Note} (h : n.Sanitized known) : Tells known (fun _ => True) (note n) := by
  intro c tr outcome c' ends _
  obtain ⟨rfl, eq⟩ := Calls.ends_ret_iff.mp ends
  obtain ⟨rfl, rfl⟩ := Prod.mk.inj eq
  exact ⟨⟨[n], rfl, by simpa using h⟩, fun _ _ => trivial⟩

theorem tells_count (m : Metric) : Tells known (fun _ => True) (count m) :=
  tells_note (by exact trivial)

theorem tells_emitNormal (reason message : String) :
    Tells known (fun _ => True) (emitNormal reason message) :=
  tells_note (by rintro ⟨⟩)

theorem tells_emitWarning {reason message : String}
    (h : Sanitized known "" message ∨ Sanitized known "Reconciliation failed: " message) :
    Tells known (fun _ => True) (emitWarning reason message) :=
  tells_note fun _ => h

theorem tells_context : Tells known (fun _ => True) context := by
  intro c tr outcome c' ends _
  obtain ⟨rfl, eq⟩ := Calls.ends_ret_iff.mp ends
  obtain ⟨rfl, rfl⟩ := Prod.mk.inj eq
  exact ⟨.refl c', fun _ _ => trivial⟩

theorem tells_modify {change : Context → Context} (h : ∀ c : Context, (change c).journal = c.journal) :
    Tells known (fun _ => True) (modify change) := by
  intro c tr outcome c' ends _
  obtain ⟨rfl, eq⟩ := Calls.ends_ret_iff.mp ends
  obtain ⟨rfl, rfl⟩ := Prod.mk.inj eq
  exact ⟨.of_journal (h c), fun _ _ => trivial⟩

/-- A part whose faults are looked at: they are faults that the cluster answered. -/
theorem Tells.attempt_bind {f : Except Fault α → Pass β} (h : Tells known P pass)
    (answered : ∀ c tr fault c', Ends pass c tr (.error fault) c' → ∃ e ∈ tr, e.reply = .error fault)
    (done : ∀ a, P a → Tells known Q (f (.ok a)))
    (failed : ∀ fault, known fault → Tells known Q (f (.error fault))) :
    Tells known Q (attempt pass >>= f) := by
  intro c tr outcome c' ends covers
  obtain ⟨inner, c₁, first, second, rfl, tried, rest⟩ := ends.of_attempt_bind
  have covers' : ∀ fault, Raised first inner fault → known fault := by
    refine fun fault raised => covers fault (raised.mono (fun _ => List.mem_append_left _) ?_)
    rintro rfl
    obtain ⟨e, mem, eq⟩ := answered _ _ _ _ tried
    exact Or.inl ⟨e, List.mem_append_left _ mem, Or.inl eq⟩
  have covers'' : ∀ fault, Raised second outcome fault → known fault := fun fault raised =>
    covers fault (raised.mono (fun _ => List.mem_append_right _) Or.inr)
  obtain ⟨told, good⟩ := h _ _ _ _ tried covers'
  cases inner with
  | ok a =>
    obtain ⟨told', good'⟩ := done a (good a rfl) _ _ _ _ rest covers''
    exact ⟨told.trans told', good'⟩
  | error fault =>
    have isKnown := covers' fault (Or.inr rfl)
    obtain ⟨told', good'⟩ := failed fault isKnown _ _ _ _ rest covers''
    exact ⟨told.trans told', good'⟩

theorem tells_request (r : Request) :
    Tells known (fun object => ∀ fault, Topology.ofResource object = .error fault → known fault)
      (request r) := by
  intro c tr outcome c' ends covers
  obtain ⟨rfl, rfl⟩ := ends.of_request
  refine ⟨.refl c', ?_⟩
  rintro object rfl fault refused
  exact covers fault (Or.inl ⟨_, List.mem_singleton.mpr rfl, Or.inr ⟨object, rfl, refused⟩⟩)

theorem Tells.ask_bind {r : Request} {f : Reply → Pass β}
    (done : ∀ object, (∀ fault, Topology.ofResource object = .error fault → known fault) →
      Tells known Q (f (.ok object)))
    (failed : ∀ fault, known fault → Tells known Q (f (.error fault))) :
    Tells known Q (attempt (request r) >>= f) := by
  refine (tells_request r).attempt_bind ?_ done failed
  intro c tr fault c' ends
  obtain ⟨rfl, rfl⟩ := ends.of_request
  exact ⟨_, List.mem_singleton.mpr rfl, rfl⟩

/-- A part that always gives the same is run through, with what it notes. -/
theorem Ends.of_telling_bind {a : α} {counted : List Metric} {outcome : Except Fault β}
    (h : Ends (pass >>= f) c tr outcome c') (notes : Notes pass c a counted)
    (tells : Tells known P pass) : ∃ c₁, c.Tells known c₁ ∧ Ends (f a) c₁ tr outcome c' := by
  obtain ⟨c₁, eq, _⟩ := notes
  have ends : Ends pass c [] (.ok a) c₁ := by
    rw [Ends, eq]
    exact .ret _
  obtain ⟨told, _⟩ := tells _ _ _ _ ends fun _ raised => (not_raised_nil raised).elim
  rw [Ends, start_bind, eq] at h
  exact ⟨c₁, told, h⟩

theorem tells_recordOutcome (name : String) (recording : Bool) (outcome : Except Fault α) :
    Tells known (fun _ => True) (recordOutcome name recording outcome) := by
  cases outcome with
  | ok a => exact tells_pure trivial
  | error fault =>
    cases recording with
    | false => exact tells_pure trivial
    | true =>
      exact (tells_note (by exact trivial)).bind fun _ _ => tells_note (by exact trivial)

theorem tells_span {P : α → Prop} {name : String} {kind : Json} {attributes : Fields}
    {block : Option String → Pass α} (h : ∀ label, Tells known P (block label)) :
    Tells known P (span name kind attributes block) := by
  intro c tr outcome c' ends covers
  obtain ⟨c₁, told₁, ends⟩ := ends.of_telling_bind (notes_context c) tells_context
  split at ends
  next =>
    obtain ⟨told, good⟩ := h none _ _ _ _ ends covers
    exact ⟨told₁.trans told, good⟩
  next recording _ =>
    obtain ⟨c₂, told₂, ends⟩ := ends.of_telling_bind (notes_note _ c₁)
      (tells_note (by exact trivial))
    obtain ⟨c₃, told₃, ends⟩ := ends.of_telling_bind
      (notes_modify (by exact fun _ => ⟨rfl, by simp⟩) c₂) (tells_modify fun _ => rfl)
    obtain ⟨inner, c₄, first, second, rfl, hb, ends⟩ := ends.of_attempt_bind
    obtain ⟨c₅, told₅, ends⟩ := ends.of_telling_bind (notes_recordOutcome name recording inner c₄)
      (tells_recordOutcome name recording inner)
    obtain ⟨c₆, told₆, ends⟩ := ends.of_telling_bind
      (notes_modify (by exact fun _ => ⟨rfl, by simp⟩) c₅) (tells_modify fun _ => rfl)
    obtain ⟨c₇, told₇, ends⟩ := ends.of_telling_bind (notes_note _ c₆)
      (tells_note (by exact trivial))
    obtain ⟨rfl, rfl, rfl⟩ := ends_ofExcept_iff.mp ends
    rw [List.append_nil] at covers
    obtain ⟨told, good⟩ := h (some name) _ _ _ _ hb covers
    exact ⟨((((told₁.trans told₂).trans told₃).trans told).trans told₅).trans
      (told₆.trans told₇), good⟩

theorem tells_correlated {P : α → Prop} {given : Option String} {block : Pass α}
    (h : Tells known P block) : Tells known P (correlated given block) := by
  intro c tr outcome c' ends covers
  obtain ⟨c₁, told₁, ends⟩ := ends.of_telling_bind
    (notes_modify (by exact fun _ => ⟨rfl, by simp⟩) c) (tells_modify fun _ => rfl)
  obtain ⟨inner, c₂, first, second, rfl, hb, ends⟩ := ends.of_attempt_bind
  obtain ⟨c₃, told₃, ends⟩ := ends.of_telling_bind
    (notes_modify (by exact fun _ => ⟨rfl, by simp⟩) c₂) (tells_modify fun _ => rfl)
  obtain ⟨rfl, rfl, rfl⟩ := ends_ofExcept_iff.mp ends
  rw [List.append_nil] at covers
  obtain ⟨told, good⟩ := h _ _ _ _ hb covers
  exact ⟨(told₁.trans told).trans told₃, good⟩

theorem tells_tag (key : String) (value : Json) : Tells known (fun _ => True) (tag key value) := by
  refine tells_context.bind fun c _ => ?_
  split
  · exact tells_note (by exact trivial)
  · exact tells_pure trivial

section Logs

open Json

/-- The further members of a log line: an error among them is redacted, and none is a message. -/
def Discreet (known : Fault → Prop) (further : Fields) : Prop :=
  ∀ field ∈ further, field.1 ≠ "message" ∧
    (field.1 = "error" → ∃ text, field.2 = .str text ∧ Sanitized known "" text)

omit [VisitingOrder] in
theorem mem_updateFields {fields news : Fields} {field : String × Json}
    (h : field ∈ updateFields fields news) : field ∈ news ∨ field ∈ fields := by
  induction news generalizing fields with
  | nil => exact Or.inr h
  | cons first rest ih =>
    rcases ih h with mem | mem
    · exact Or.inl (List.mem_cons_of_mem _ mem)
    · rcases mem_setField mem with rfl | mem
      · exact Or.inl List.mem_cons_self
      · exact Or.inr mem

omit [VisitingOrder] in
theorem lookup_updateFields_of_ne {fields news : Fields} {key : String}
    (absent : ∀ field ∈ news, field.1 ≠ key) :
    (updateFields fields news).lookup key = fields.lookup key := by
  induction news generalizing fields with
  | nil => rfl
  | cons first rest ih =>
    obtain ⟨ne, others⟩ := List.forall_mem_cons.mp absent
    change (updateFields (setField first.1 first.2 fields) rest).lookup key = _
    rw [ih others, lookup_setField, if_neg ne.symm]

omit [VisitingOrder] in
theorem isSensitive_error : isSensitive [] "error" = false := by
  decide

theorem Discreet.describe {further : Fields} (h : Discreet known further) (c : Correlation) :
    Discreet known (c.describe further) := by
  rw [Correlation.describe]
  split
  next id _ =>
    intro field mem
    rcases mem_updateFields mem with mem | mem
    · exact h field mem
    · obtain rfl := List.mem_singleton.mp mem
      exact ⟨by simp, by simp⟩
  next => exact h

theorem Discreet.redactFields {further : Fields} (h : Discreet known further) :
    Discreet known (redactFields [] further) := by
  rintro ⟨name, value⟩ mem
  obtain ⟨before, mem, redacted⟩ := mem_redactFields mem
  obtain ⟨ne, plain⟩ := h _ mem
  refine ⟨ne, ?_⟩
  rintro rfl
  obtain ⟨text, eq, fault, isKnown, rfl⟩ := plain rfl
  refine ⟨"" ++ redactFault fault, ?_, fault, isKnown, rfl⟩
  rw [redacted _ eq isSensitive_error, String.empty_append, redactFault, redact_redact]

theorem tells_logAbout {kind name ns uid : Json} {report : Report} {further : Fields} {text : String}
    (message : report.message = .str text)
    (allowed : text ∈ logTexts ∨ Sanitized known triggerLead text)
    (discreet : Discreet known further) :
    Tells known (fun _ => True) (logAbout kind name ns uid report further) := by
  refine (tells_look _).bind fun _ _ => tells_context.bind fun c _ => tells_note ?_
  have redacted := (discreet.describe c.correlation).redactFields
  refine ⟨fun value h => ?_, text, ?_, allowed⟩
  · rcases mem_updateFields (mem_of_lookup h) with mem | mem
    · exact (redacted _ mem).2 rfl
    · simp at mem
  · rw [lookup_updateFields_of_ne fun field mem => (redacted field mem).1, ← message]
    rfl

theorem tells_log {kind metadata : Json} {report : Report} {further : Fields} {text : String}
    (message : report.message = .str text) (allowed : text ∈ logTexts)
    (discreet : Discreet known further) :
    Tells known (fun _ => True) (log kind metadata report further) :=
  (tells_look _).bind fun _ _ => (tells_look _).bind fun _ _ =>
    tells_logAbout message (Or.inl allowed) discreet

theorem tells_logInfo {kind : String} {metadata : Json} {message event reason : String}
    (allowed : message ∈ logTexts) :
    Tells known (fun _ => True) (logInfo kind metadata message event reason) :=
  tells_log rfl allowed (by simp [Discreet])

theorem tells_logFault {kind : String} {metadata : Json} {message reason : String} {fault : Fault}
    (allowed : message ∈ logTexts) (isKnown : known fault) :
    Tells known (fun _ => True) (logFault kind metadata message fault reason) := by
  refine tells_log rfl allowed ?_
  refine List.forall_mem_cons.mpr ⟨⟨by simp, fun _ => ⟨_, rfl, .plain isKnown⟩⟩, ?_⟩
  exact List.forall_mem_singleton.mpr ⟨by simp, by simp⟩

end Logs

theorem tells_reportEscaped {kind : String} {metadata : Json} {fault : Fault}
    (isKnown : known fault) : Tells known (fun _ => True) (reportEscaped kind metadata fault) := by
  refine (tells_count _).bind fun _ _ => ?_
  exact (tells_logFault (by decide) isKnown).bind fun _ _ => tells_count _

theorem tells_measured {P : Directive δ → Prop} {kind : String} {ns name : Json}
    {pass : Pass (Directive δ)} (h : Tells known P pass) :
    Tells known P (measured kind (metadataOf ns name) pass) := by
  intro c tr outcome c' ends covers
  obtain ⟨c₁, told₁, ends⟩ := ends.of_telling_bind (notes_count _ c) (tells_count _)
  obtain ⟨inner, c₂, first, second, rfl, hp, ends⟩ := ends.of_attempt_bind
  cases inner with
  | ok directive =>
    obtain ⟨c₃, told₃, ends⟩ := ends.of_telling_bind (notes_count _ c₂) (tells_count _)
    obtain ⟨c₄, told₄, ends⟩ := ends.of_telling_bind (notes_count _ c₃) (tells_count _)
    obtain ⟨rfl, rfl, rfl⟩ := ends_pure_iff.mp ends
    rw [List.append_nil] at covers
    obtain ⟨told, good⟩ := h _ _ _ _ hp covers
    exact ⟨((told₁.trans told).trans told₃).trans told₄, good⟩
  | error fault =>
    obtain ⟨reported, c₃, none, second, rfl, reporting, ends⟩ := ends.of_attempt_bind
    obtain ⟨rfl, rfl, _⟩ := reporting.of_notes (notes_reportEscaped kind _ fault c₂)
    obtain ⟨c₄, told₄, ends⟩ := ends.of_telling_bind (notes_count _ c₃) (tells_count _)
    obtain ⟨rfl, rfl, rfl⟩ := ends_throw_iff.mp (ends.of_ok_bind rfl)
    rw [List.append_nil, List.append_nil] at covers
    have isKnown := covers fault (Or.inr rfl)
    obtain ⟨told, _⟩ := h _ _ _ _ hp covers
    obtain ⟨told₃, _⟩ := tells_reportEscaped isKnown _ _ _ _ reporting
      fun _ raised => (not_raised_nil raised).elim
    exact ⟨((told₁.trans told).trans told₃).trans told₄, by rintro _ ⟨⟩⟩

def Owns (known : Fault → Prop) (applied : Applied) : Prop :=
  ∀ fault, applied.fault? = some fault → known fault

theorem tells_finish {applied : Applied} (owns : Owns known applied) :
    Tells known (Owns known) (finish applied) :=
  (tells_count _).bind fun _ _ => (tells_tag _ _).bind fun _ _ => tells_pure owns

/-- A fault that is not the operator's ends the pass. -/
theorem tells_operator {handled : Pass α} {fault : Fault} (h : Tells known P handled) :
    Tells known P (if fault.isOperator then handled else throw fault) := by
  split
  · exact h
  · exact tells_throw fault

theorem tells_finishFailed {metadata : Json} {fault : Fault}
    {conflictMessage message reason : String} {attempt : Option (Json × Json)}
    (allowed : conflictMessage ∈ logTexts) (allowed' : message ∈ logTexts) (isKnown : known fault) :
    Tells known (Owns known)
      (finishFailed metadata fault conflictMessage message reason attempt) := by
  unfold finishFailed
  split
  next =>
    refine (tells_logInfo allowed).bind fun _ _ => tells_finish ?_
    rintro _ ⟨⟩
    exact isKnown
  next =>
    refine tells_operator ((tells_logFault allowed' isKnown).bind fun _ _ => tells_finish ?_)
    rintro _ ⟨⟩
    exact isKnown

theorem tells_createSet (t : Topology) (owner : Json) :
    Tells known (Owns known) (createSet t owner) := by
  refine (tells_look _).bind fun reference _ => Tells.ask_bind (fun created _ => ?_) ?_
  · refine (tells_logInfo (by decide)).bind fun _ _ => tells_finish ?_
    rintro _ ⟨⟩
  · intro fault isKnown
    exact tells_finishFailed (by decide) (by decide) isKnown

theorem tells_reportDrift (t : Topology) (live : Json) :
    Tells known (fun _ => True) (reportDrift t live) := by
  unfold reportDrift
  split
  · exact tells_pure trivial
  · refine (tells_count _).bind fun _ _ => tells_log rfl (by decide) ?_
    exact List.forall_mem_singleton.mpr ⟨by simp, by simp⟩

theorem tells_patchSet (t : Topology) (live : Json) : Tells known (Owns known) (patchSet t live) := by
  refine (tells_reportDrift t live).bind fun _ _ => ?_
  split
  · exact tells_finish (by rintro _ ⟨⟩)
  · refine (tells_count _).bind fun _ _ => (tells_look _).bind fun version _ => ?_
    refine Tells.ask_bind (fun patched _ => ?_) fun fault isKnown => ?_
    · refine (tells_logInfo (by decide)).bind fun _ _ => tells_finish ?_
      rintro _ ⟨⟩
    · exact tells_finishFailed (by decide) (by decide) isKnown

theorem tells_apply (t : Topology) (owner : Json) : Tells known (Owns known) (apply t owner) := by
  refine Tells.ask_bind (fun live _ => tells_patchSet t live) fun fault isKnown => ?_
  cases fault with
  | notFound message => exact tells_createSet t owner
  | _ =>
    refine tells_operator ((tells_logFault (by decide) isKnown).bind fun _ _ => tells_finish ?_)
    rintro _ ⟨⟩
    exact isKnown

def Hands (known : Fault → Prop) (directive : Directive δ) : Prop :=
  ∀ fault, directive = .requeueError (some fault) → known fault

theorem tells_writeStatus {resource status : Json} {directive : Directive δ}
    (hands : Hands known directive) :
    Tells known (Hands known) (writeStatus resource status directive) := by
  refine (tells_look _).bind fun metadata _ => (tells_look _).bind fun ns _ => ?_
  refine (tells_look _).bind fun name _ => ?_
  refine Tells.ask_bind (fun _ _ => tells_pure hands) fun fault isKnown => ?_
  cases fault with
  | notFound message => exact (tells_logInfo (by decide)).bind fun _ _ => tells_pure hands
  | _ =>
    refine tells_operator ((tells_count _).bind fun _ _ => ?_)
    refine (tells_logFault (by decide) isKnown).bind fun _ _ => ?_
    split
    · exact tells_pure hands
    · refine tells_pure ?_
      rintro _ ⟨⟩
      exact isKnown

theorem tells_report (r : Condition.Report) (conditions : Json) :
    Tells known (fun _ => True) (report r conditions) :=
  (tells_context.bind fun _ _ => tells_look _).bind fun _ _ => tells_look _

theorem tells_reportInvalid {resource conditions : Json} {fault : Fault} (isKnown : known fault) :
    Tells known (Hands known) (reportInvalid resource conditions fault : Pass (Directive δ)) := by
  refine (tells_look _).bind fun metadata _ => (tells_look _).bind fun generation _ => ?_
  refine (tells_count _).bind fun _ _ => ?_
  refine (tells_logFault (by decide) isKnown).bind fun _ _ => ?_
  refine (tells_emitWarning (Or.inl (.plain isKnown))).bind fun _ _ => ?_
  refine (tells_report _ _).bind fun _ _ => (tells_report _ _).bind fun _ _ => ?_
  refine (tells_count _).bind fun _ _ => tells_writeStatus ?_
  rintro _ ⟨⟩
  exact isKnown

theorem tells_directiveFor {s : Settings δ} {resource : Json} {applied : Applied}
    (owns : Owns known applied) : Tells known (Hands known) (directiveFor s resource applied) := by
  refine (tells_look _).bind fun metadata _ => (tells_look _).bind fun name _ => ?_
  split
  next => exact (tells_emitNormal _ _).bind fun _ _ => tells_pure (by rintro _ ⟨⟩)
  next => exact (tells_emitNormal _ _).bind fun _ _ => tells_pure (by rintro _ ⟨⟩)
  next => exact tells_pure (by rintro _ ⟨⟩)
  next => exact tells_pure (by rintro _ ⟨⟩)
  next fault _ =>
    have isKnown := owns fault rfl
    refine (tells_count _).bind fun _ _ => ?_
    refine (tells_emitWarning (Or.inr ⟨fault, isKnown, rfl⟩)).bind fun _ _ => tells_pure ?_
    rintro _ ⟨⟩
    exact isKnown

theorem tells_reportApplied (t : Topology) (applied : Applied) (counted conditions : Json) :
    Tells known (fun _ => True) (reportApplied t applied counted conditions) := by
  unfold reportApplied
  split
  · refine (tells_report _ _).bind fun _ _ => (tells_report _ _).bind fun _ _ => ?_
    exact tells_pure trivial
  · refine (tells_report _ _).bind fun _ _ => (tells_look _).bind fun _ _ => ?_
    exact (tells_report _ _).bind fun _ _ => tells_pure trivial

theorem tells_statusAfter (t : Topology) (applied : Applied) (conditions : Json) :
    Tells known (fun _ => True) (statusAfter t applied conditions) := by
  refine (tells_look _).bind fun _ _ => (tells_reportApplied _ _ _ _).bind fun _ _ => ?_
  refine (tells_report _ _).bind fun _ _ => ?_
  exact (tells_count _).bind fun _ _ => tells_pure trivial

theorem tells_applyAndReport (s : Settings δ) (resource conditions : Json) (t : Topology) :
    Tells known (Hands known) (applyAndReport s resource conditions t) := by
  refine (tells_span fun _ => tells_look (.ok ())).bind fun _ _ => ?_
  refine (tells_span fun _ => tells_apply t resource).bind fun applied owns => ?_
  refine (tells_directiveFor owns).bind fun directive hands => ?_
  split
  · exact tells_pure (by rintro _ ⟨⟩)
  · exact (tells_statusAfter _ _ _).bind fun _ _ => tells_writeStatus hands

theorem tells_reconcileResource {s : Settings δ} {identity resource : Json}
    (refused : ∀ fault, Topology.ofResource resource = .error fault → known fault) :
    Tells known (Hands known) (reconcileResource s identity resource) := by
  refine (tells_look _).bind fun metadata _ => (tells_look _).bind fun deleted _ => ?_
  split
  · exact (tells_logInfo (by decide)).bind fun _ _ => tells_pure (by rintro _ ⟨⟩)
  · refine (tells_emitNormal _ _).bind fun _ _ => ?_
    refine (tells_look _).bind fun _ _ => (tells_look _).bind fun conditions _ => ?_
    split
    next t _ => exact tells_applyAndReport s resource conditions t
    next message rejected => exact tells_reportInvalid (refused _ rejected)
    next => exact tells_throw _

theorem tells_reconcileOnce (s : Settings δ) (ns name : Json) :
    Tells known (Hands known) (reconcileOnce s ns name) := by
  refine Tells.ask_bind (fun resource refused => tells_reconcileResource refused)
    fun fault isKnown => ?_
  cases fault with
  | notFound message =>
    exact (tells_logInfo (by decide)).bind fun _ _ => tells_pure (by rintro _ ⟨⟩)
  | _ =>
    refine tells_operator ((tells_count _).bind fun _ _ => ?_)
    refine (tells_logFault (by decide) isKnown).bind fun _ _ => tells_pure ?_
    rintro _ ⟨⟩
    exact isKnown

theorem tells_reconcile (s : Settings δ) (ns name : Json) :
    Tells known (Hands known) (reconcile s ns name) := by
  refine tells_correlated (tells_span fun _ => ?_)
  refine (tells_measured (tells_reconcileOnce s ns name)).bind fun directive hands => ?_
  exact (tells_tag _ _).bind fun _ _ => tells_pure hands

end Pass

end StorageController
