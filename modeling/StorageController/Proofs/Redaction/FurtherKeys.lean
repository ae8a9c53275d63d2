import StorageController.Proofs.Json.WellFormed
import StorageController.Proofs.Redaction.Document
import StorageController.Proofs.Text.Lowercase

namespace StorageController.Redaction

open Json Text

variable {keys : List String} {key name : String}

/-- The key stands somewhere in the name, in any ASCII case. -/
def FoundIn (key name : String) : Prop :=
  key.toList.map Char.toLower <:+: name.toList.map Char.toLower

theorem sensitive_of_foundIn (mem : key ∈ sensitiveFields ++ keys) (small : lower key = key)
    (found : FoundIn key name) : Sensitive keys name :=
  ⟨key, mem, infix_lower (lower_eq_iff.mp small) found⟩

/-- A key that occurs in a text in lower case is in lower case itself. -/
theorem lower_of_occurs (h : key.toList <:+: (lower name).toList) : lower key = key := by
  rw [lower, String.toList_ofList] at h
  exact lower_eq_iff.mpr fun c mem => isSmall_of_mem_lowerFrom (h.subset mem)

/-- Keys that are not in lower case make no name sensitive. -/
theorem sensitive_small_iff :
    Sensitive (keys.filter fun key => lower key = key) name ↔ Sensitive keys name := by
  constructor
  · rintro ⟨key, mem, occurs⟩
    refine ⟨key, List.mem_append.mpr ?_, occurs⟩
    exact (List.mem_append.mp mem).imp_right fun further => (List.mem_filter.mp further).1
  · rintro ⟨key, mem, occurs⟩
    have small : decide (lower key = key) = true := decide_eq_true (lower_of_occurs occurs)
    refine ⟨key, List.mem_append.mpr ?_, occurs⟩
    exact (List.mem_append.mp mem).imp_right fun further => List.mem_filter.mpr ⟨further, small⟩

section

variable [VisitingOrder]

theorem redactMember_congr {keys' : List String} {value : Json}
    (same : Sensitive keys name ↔ Sensitive keys' name)
    (inside : redactValue keys value = redactValue keys' value) :
    redactMember keys name value = redactMember keys' name value := by
  by_cases sensitive : Sensitive keys name
  · rw [redactMember_of_sensitive sensitive, redactMember_of_sensitive (same.mp sensitive)]
  · rw [redactMember_of_insensitive sensitive,
      redactMember_of_insensitive (mt same.mpr sensitive), inside]

theorem redactValue_congr {keys' : List String}
    (same : ∀ name, Sensitive keys name ↔ Sensitive keys' name) (value : Json) :
    redactValue keys value = redactValue keys' value := by
  induction value using documentInduction with
  | scalar value isScalar =>
    cases value with
    | obj => cases isScalar
    | _ => rfl
  | arr items => rfl
  | obj fields ih =>
    change Json.obj (redactFields keys fields) = .obj (redactFields keys' fields)
    rw [redactFields_eq_map, redactFields_eq_map]
    refine congrArg Json.obj (List.map_congr_left fun field mem => ?_)
    rw [redactMember_congr (same field.1) (ih field mem)]

omit [VisitingOrder] in
/-- In a name of ASCII characters a key is found in lower case exactly if it is found in any case. -/
theorem foundIn_iff (small : lower key = key) (ascii : ∀ c ∈ name.toList, c.toNat < 0x80) :
    FoundIn key name ↔ key.toList <:+: (lower name).toList := by
  rw [FoundIn, map_toLower (lower_eq_iff.mp small),
    toList_lower fun c mem => isSmall_toLower (ascii c mem)]

theorem redactValue_of_shape {value : Json} (noObject : value.shape ≠ .obj)
    (noText : value.shape ≠ .str) : redactValue keys value = value := by
  cases value with
  | obj fields => exact absurd rfl noObject
  | str s => exact absurd rfl noText
  | _ => rfl

/-- Keys in lower case are honoured in any spelling, as deep as redaction comes, and other values than
objects and strings stay as they are under every other name. Keys that are not in lower case have no
influence. -/
theorem further_keys_honoured (keys : List String) (fields : Fields) :
    (∀ front name value, Visited keys front →
      (Json.obj fields).at? (front ++ [.field name]) = some value →
      (∀ key ∈ sensitiveFields ++ keys, lower key = key → FoundIn key name →
        (Json.obj (redactFields keys fields)).at? (front ++ [.field name]) = some (.str mask)) ∧
      (¬ Sensitive keys name →
        value.shape ≠ .obj → value.shape ≠ .str →
        (Json.obj (redactFields keys fields)).at? (front ++ [.field name]) = some value)) ∧
    (∀ key name, lower key = key → (∀ c ∈ name.toList, c.toNat < 0x80) →
      (FoundIn key name ↔ key.toList <:+: (lower name).toList)) ∧
    redactFields (keys.filter fun key => lower key = key) fields = redactFields keys fields := by
  refine ⟨fun front name value visited there => ⟨fun key mem small found => ?_, ?_⟩,
    fun key name => foundIn_iff, ?_⟩
  · have sensitive := sensitive_of_foundIn mem small found
    have masked := at?_redactValue_sensitive visited sensitive (.obj fields)
    rwa [there] at masked
  · intro insensitive noObject noText
    have visited' : Visited keys (front ++ [.field name]) :=
      List.forall_mem_append.mpr
        ⟨visited, List.forall_mem_singleton.mpr ⟨name, rfl, insensitive⟩⟩
    have kept := at?_redactValue visited' (.obj fields)
    rwa [there, Option.map_some, redactValue_of_shape noObject noText] at kept
  · exact Json.obj.inj (redactValue_congr (fun _ => sensitive_small_iff) (.obj fields))

end

open TokenFirst in
/-- A key for names one object deep, in another spelling, beside one that is without influence. -/
theorem further_keys_honoured_spelled :
    Visited ["apikey", "Owner"] [.field "client"] ∧
      (Json.obj [("client", .obj [("myApiKey", .int 7), ("owner", .int 8)])]).at?
        [.field "client", .field "myApiKey"] = some (.int 7) ∧
      lower "apikey" = "apikey" ∧ FoundIn "apikey" "myApiKey" ∧
      (Json.obj (redactFields ["apikey", "Owner"]
        [("client", .obj [("myApiKey", .int 7), ("owner", .int 8)])])).at?
        [.field "client", .field "myApiKey"] = some (.str mask) ∧
      (Json.obj (redactFields ["apikey", "Owner"]
        [("client", .obj [("myApiKey", .int 7), ("owner", .int 8)])])).at?
        [.field "client", .field "owner"] = some (.int 8) := by
  have visited : Visited ["apikey", "Owner"] [.field "client"] :=
    List.forall_mem_singleton.mpr ⟨"client", rfl, not_sensitive_iff.mpr (by decide +kernel)⟩
  have small : lower "apikey" = "apikey" := by decide +kernel
  have found : FoundIn "apikey" "myApiKey" := ⟨"my".toList, [], by decide +kernel⟩
  have honoured := (further_keys_honoured ["apikey", "Owner"]
    [("client", .obj [("myApiKey", .int 7), ("owner", .int 8)])]).1 [.field "client"]
  refine ⟨visited, rfl, small, found, ?_, ?_⟩
  · exact (honoured "myApiKey" (.int 7) visited rfl).1 "apikey" (by decide) small found
  · have insensitive : ¬ Sensitive ["apikey", "Owner"] "owner" :=
      not_sensitive_iff.mpr (by decide +kernel)
    exact (honoured "owner" (.int 8) visited rfl).2 insensitive (by decide) (by decide)

open TokenFirst in
/-- A key with a capital does not even mask the name that is spelled like it. -/
theorem capital_key_ignored :
    FoundIn "ApiKey" "ApiKey" ∧
      redactFields ["ApiKey"] [("ApiKey", .str "s3cr3t")] = [("ApiKey", .str "s3cr3t")] := by
  refine ⟨List.infix_rfl, ?_⟩
  have insensitive : isSensitive ["ApiKey"] "ApiKey" = false := by decide +kernel
  have plain : redact "s3cr3t" = "s3cr3t" := by decide +kernel
  rw [redactFields, redactFields, insensitive, plain, if_neg Bool.false_ne_true]

end StorageController.Redaction
