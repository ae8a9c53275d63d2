import StorageController.Json.Path
import StorageController.Redaction.Document

namespace StorageController

namespace Json

/-- The value one step below a document. -/
def child? : Step → Json → Option Json
  | .field name, .obj fields => fields.lookup name
  | .item index, .arr items => items[index]?
  | _, _ => none

/-- The value at the end of a row of steps. -/
def at? : List Step → Json → Option Json
  | [], j => some j
  | step :: steps, j => (j.child? step).bind (at? steps)

theorem at?_append (front back : List Step) (j : Json) :
    j.at? (front ++ back) = (j.at? front).bind (at? back) := by
  induction front generalizing j with
  | nil => rfl
  | cons step front ih =>
    rw [List.cons_append, at?, at?, Option.bind_assoc]
    exact congrArg _ (funext ih)

theorem at?_singleton (step : Step) (j : Json) : j.at? [step] = j.child? step := by
  simp [at?]

end Json

namespace Redaction

open Json Text

variable {keys : List String} {fields : Fields} {front back place : List Step} {name : String}
  {value : Json}

/-- A sensitive field or one of the further keys stands somewhere in the name in lower case. -/
def Sensitive (keys : List String) (name : String) : Prop :=
  ∃ key ∈ sensitiveFields ++ keys, key.toList <:+: (lower name).toList

theorem occursIn_iff (part whole : List Char) : occursIn part whole = true ↔ part <:+: whole := by
  induction whole with
  | nil => simp [occursIn]
  | cons c rest ih =>
    rw [occursIn, Bool.or_eq_true, List.isPrefixOf_iff_prefix, ih, List.infix_cons_iff]

theorem isSensitive_iff : isSensitive keys name = true ↔ Sensitive keys name := by
  simp only [isSensitive, Sensitive, List.any_eq_true, occursIn_iff]

theorem not_sensitive_iff : ¬ Sensitive keys name ↔ isSensitive keys name = false := by
  rw [← isSensitive_iff, Bool.not_eq_true]

section

variable [Redaction.VisitingOrder]

/-- What becomes of a value under a name that is not sensitive. -/
def redactValue (keys : List String) : Json → Json
  | .obj fields => .obj (redactFields keys fields)
  | .str s => .str (redact s)
  | j => j

/-- What becomes of a value under a name. -/
def redactMember (keys : List String) (name : String) (value : Json) : Json :=
  if isSensitive keys name then .str mask else redactValue keys value

/-- Members are redacted one by one, in their order and under their names. -/
theorem redactFields_eq_map (keys : List String) (fields : Fields) :
    redactFields keys fields =
      fields.map fun field => (field.1, redactMember keys field.1 field.2) := by
  induction fields with
  | nil => rw [redactFields, List.map_nil]
  | cons field rest ih =>
    obtain ⟨name, value⟩ := field
    rw [List.map_cons, ← ih]
    cases value <;> rw [redactFields] <;> simp [redactMember, redactValue]

theorem lookup_redactFields (keys : List String) (fields : Fields) (name : String) :
    (redactFields keys fields).lookup name = (fields.lookup name).map (redactMember keys name) := by
  rw [redactFields_eq_map]
  induction fields with
  | nil => rfl
  | cons field rest ih =>
    rw [List.map_cons, List.lookup_cons, List.lookup_cons, ih]
    split
    next found =>
      rw [beq_iff_eq.mp found]
      rfl
    next => rfl

theorem names_redactFields (keys : List String) (fields : Fields) :
    (redactFields keys fields).map Prod.fst = fields.map Prod.fst := by
  rw [redactFields_eq_map, List.map_map]
  rfl

theorem redactMember_of_insensitive (h : ¬ Sensitive keys name) (value : Json) :
    redactMember keys name value = redactValue keys value :=
  if_neg (mt isSensitive_iff.mp h)

theorem redactMember_of_sensitive (h : Sensitive keys name) (value : Json) :
    redactMember keys name value = .str mask :=
  if_pos (isSensitive_iff.mpr h)

theorem exists_mem_redactFields (h : (name, value) ∈ fields) :
    ∃ after, (name, after) ∈ redactFields keys fields := by
  rw [redactFields_eq_map]
  exact ⟨_, List.mem_map_of_mem h⟩

/-- A member of redacted members is a redacted member of the same name. -/
theorem mem_redactFields (h : (name, value) ∈ redactFields keys fields) :
    ∃ before, (name, before) ∈ fields ∧
      ∀ text, before = .str text → isSensitive keys name = false → value = .str (redact text) := by
  rw [redactFields_eq_map] at h
  obtain ⟨⟨_, before⟩, mem, eq⟩ := List.mem_map.mp h
  obtain ⟨rfl, rfl⟩ := Prod.mk.inj eq
  refine ⟨before, mem, ?_⟩
  rintro text rfl insensitive
  exact redactMember_of_insensitive (not_sensitive_iff.mpr insensitive) _

theorem child?_field_redactValue (keys : List String) (name : String) (j : Json) :
    (redactValue keys j).child? (.field name) =
      (j.child? (.field name)).map (redactMember keys name) := by
  cases j with
  | obj fields => exact lookup_redactFields keys fields name
  | _ => rfl

theorem child?_item_redactValue (keys : List String) (index : Nat) (j : Json) :
    (redactValue keys j).child? (.item index) = j.child? (.item index) := by
  cases j with
  | _ => rfl

/-- Redaction comes to this place: only objects are on the way there, and no sensitive name. -/
def Visited (keys : List String) (place : List Step) : Prop :=
  ∀ step ∈ place, ∃ name, step = .field name ∧ ¬ Sensitive keys name

theorem at?_redactValue (visited : Visited keys place) (j : Json) :
    (redactValue keys j).at? place = (j.at? place).map (redactValue keys) := by
  induction place generalizing j with
  | nil => rfl
  | cons step place ih =>
    obtain ⟨⟨name, rfl, insensitive⟩, others⟩ := List.forall_mem_cons.mp visited
    rw [at?, at?, child?_field_redactValue]
    cases j.child? (.field name) with
    | none => rfl
    | some value =>
      change (redactMember keys name value).at? place = _
      rw [redactMember_of_insensitive insensitive, ih others]
      rfl

omit [Redaction.VisitingOrder] in
/-- On the way to a place, redaction comes to the place itself, to a sensitive name or to a list. -/
theorem visited_cases (keys : List String) (place : List Step) :
    Visited keys place ∨
      (∃ front name back, place = front ++ .field name :: back ∧ Visited keys front ∧
        Sensitive keys name) ∨
      ∃ front index back, place = front ++ .item index :: back ∧ Visited keys front := by
  induction place with
  | nil => exact Or.inl (List.forall_mem_nil _)
  | cons step place ih =>
    cases step with
    | item index => exact Or.inr (Or.inr ⟨[], index, place, rfl, List.forall_mem_nil _⟩)
    | field name =>
      by_cases sensitive : Sensitive keys name
      · exact Or.inr (Or.inl ⟨[], name, place, rfl, List.forall_mem_nil _, sensitive⟩)
      · have further : ∀ {front}, Visited keys front → Visited keys (.field name :: front) :=
          fun visited => List.forall_mem_cons.mpr ⟨⟨name, rfl, sensitive⟩, visited⟩
        rcases ih with visited | ⟨front, other, back, rfl, visited, found⟩ |
            ⟨front, index, back, rfl, visited⟩
        · exact Or.inl (further visited)
        · exact Or.inr (Or.inl ⟨_ :: front, other, back, rfl, further visited, found⟩)
        · exact Or.inr (Or.inr ⟨_ :: front, index, back, rfl, further visited⟩)

/-- Where redaction comes to a list, everything below it is what it was. -/
theorem at?_redactValue_item (visited : Visited keys front) (index : Nat) (back : List Step)
    (j : Json) :
    (redactValue keys j).at? (front ++ .item index :: back) =
      j.at? (front ++ .item index :: back) := by
  rw [at?_append, at?_append, at?_redactValue visited, Option.bind_map]
  refine congrArg _ (funext fun value => ?_)
  change ((redactValue keys value).child? (.item index)).bind (at? back) = _
  rw [child?_item_redactValue]
  rfl

/-- The value of a sensitive name is masked, as deep as redaction comes. -/
theorem at?_redactValue_sensitive (visited : Visited keys front)
    (sensitive : Sensitive keys name) (j : Json) :
    (redactValue keys j).at? (front ++ [.field name]) =
      (j.at? (front ++ [.field name])).map fun _ => .str mask := by
  rw [at?_append, at?_append, at?_redactValue visited, Option.bind_map, Option.map_bind]
  refine congrArg _ (funext fun value => ?_)
  rw [Function.comp, Function.comp, at?_singleton, at?_singleton, child?_field_redactValue]
  exact congrArg (Option.map · _) (funext (redactMember_of_sensitive sensitive))

/-- What a value becomes where redaction comes to it: a string is redacted as a message, an object keeps
its names in their order, and anything else stays as it is. -/
def Rewritten : Json → Json → Prop
  | .str s, after => after = .str (redact s)
  | .obj fields, after =>
    ∃ others : Fields, after = .obj others ∧ others.map Prod.fst = fields.map Prod.fst
  | before, after => after = before

theorem rewritten_redactValue (keys : List String) (value : Json) :
    Rewritten value (redactValue keys value) := by
  cases value with
  | obj fields => exact ⟨_, rfl, names_redactFields keys fields⟩
  | _ => rfl

omit [Redaction.VisitingOrder] in
/-- Below a masked value there is nothing. -/
theorem nil_of_at?_mask (h : (Json.str mask).at? back ≠ none) : back = [] := by
  cases back with
  | nil => rfl
  | cons step back =>
    refine absurd ?_ h
    cases step <;> rfl

theorem there_of_redactValue (keys : List String) (j : Json)
    (h : (redactValue keys j).at? place ≠ none) :
    j.at? place ≠ none := by
  intro missing
  apply h
  rcases visited_cases keys place with visited | ⟨front, name, back, rfl, visited, sensitive⟩ |
      ⟨front, index, back, rfl, visited⟩
  · rw [at?_redactValue visited, missing]
    rfl
  · rw [List.append_cons, at?_append] at h missing ⊢
    rw [at?_redactValue_sensitive visited sensitive] at h ⊢
    cases there : j.at? (front ++ [.field name]) with
    | none => rfl
    | some value =>
      rw [there] at h missing
      obtain rfl := nil_of_at?_mask h
      cases missing
  · rw [at?_redactValue_item visited, missing]

theorem cases_of_there {j : Json} (keys : List String) (there : j.at? place = some value) :
    (Visited keys place ∧
      ∃ after, (redactValue keys j).at? place = some after ∧ Rewritten value after) ∨
    (∃ front name back, place = front ++ .field name :: back ∧ Visited keys front ∧
      Sensitive keys name ∧
      (redactValue keys j).at? (front ++ [.field name]) = some (.str mask)) ∨
    ∃ front index back, place = front ++ .item index :: back ∧ Visited keys front ∧
      (redactValue keys j).at? place = some value := by
  rcases visited_cases keys place with visited | ⟨front, name, back, rfl, visited, sensitive⟩ |
      ⟨front, index, back, rfl, visited⟩
  · refine Or.inl ⟨visited, redactValue keys value, ?_, rewritten_redactValue keys value⟩
    rw [at?_redactValue visited, there]
    rfl
  · refine Or.inr (Or.inl ⟨front, name, back, rfl, visited, sensitive, ?_⟩)
    rw [List.append_cons, at?_append] at there
    obtain ⟨inner, above, _⟩ := Option.bind_eq_some_iff.mp there
    rw [at?_redactValue_sensitive visited sensitive, above]
    rfl
  · refine Or.inr (Or.inr ⟨front, index, back, rfl, visited, ?_⟩)
    rw [at?_redactValue_item visited, there]

/-- Redaction comes to a place, masks what it lies in, or stops at a list above it; and it adds no
place. -/
theorem redaction_reaches (keys : List String) (fields : Fields) :
    (∀ place value, (Json.obj fields).at? place = some value →
      (Visited keys place ∧
        ∃ after, (Json.obj (redactFields keys fields)).at? place = some after ∧
          Rewritten value after) ∨
      (∃ front name back, place = front ++ .field name :: back ∧ Visited keys front ∧
        Sensitive keys name ∧
        (Json.obj (redactFields keys fields)).at? (front ++ [.field name]) = some (.str mask)) ∨
      ∃ front index back, place = front ++ .item index :: back ∧ Visited keys front ∧
        (Json.obj (redactFields keys fields)).at? place = some value) ∧
    ∀ place, (Json.obj (redactFields keys fields)).at? place ≠ none →
      (Json.obj fields).at? place ≠ none :=
  ⟨fun _ _ there => cases_of_there keys there, fun _ => there_of_redactValue keys (.obj fields)⟩

end

open Redaction.TokenFirst in
/-- A token two objects deep. -/
theorem redaction_reaches_nested :
    (Json.obj [("auth", .obj [("token", "abc"), ("note", "password: x")])]).at?
        [.field "auth", .field "token"] = some (.str "abc") ∧
      (Json.obj (redactFields [] [("auth", .obj [("token", "abc"), ("note", "password: x")])])).at?
        [.field "auth", .field "token"] = some (.str mask) := by
  have plain : ¬ Sensitive [] "auth" := not_sensitive_iff.mpr (by decide +kernel)
  have secret : Sensitive [] "token" := isSensitive_iff.mp (by decide +kernel)
  refine ⟨rfl, ?_⟩
  rcases (redaction_reaches [] [("auth", .obj [("token", "abc"), ("note", "password: x")])]).1
      [.field "auth", .field "token"] "abc" rfl with
    ⟨visited, _⟩ | ⟨front, name, back, eq, _, sensitive, masked⟩ | ⟨front, index, back, eq, _⟩
  · obtain ⟨_, eq, insensitive⟩ := visited (.field "token") (by simp)
    cases eq
    exact absurd secret insensitive
  · rcases front with _ | ⟨first, _ | ⟨second, front⟩⟩
    · cases eq
      exact absurd sensitive plain
    · cases eq
      exact masked
    · simp at eq
  · have inside : Step.item index ∈ [Step.field "auth", .field "token"] := eq ▸ by simp
    simp at inside

open Redaction.TokenFirst in
/-- The password of an item of a list stays, although the name is sensitive. -/
theorem secret_in_list_kept :
    Sensitive [] "password" ∧
      (Json.obj [("servers", .arr [.obj [("password", "hunter2")]])]).at?
        [.field "servers", .item 0, .field "password"] = some (.str "hunter2") ∧
      (Json.obj (redactFields [] [("servers", .arr [.obj [("password", "hunter2")]])])).at?
        [.field "servers", .item 0, .field "password"] = some (.str "hunter2") := by
  have visited : Visited [] [.field "servers"] :=
    List.forall_mem_singleton.mpr ⟨"servers", rfl, not_sensitive_iff.mpr (by decide +kernel)⟩
  refine ⟨isSensitive_iff.mp (by decide +kernel), rfl, ?_⟩
  exact at?_redactValue_item visited 0 [.field "password"] (.obj _)

end Redaction

end StorageController
