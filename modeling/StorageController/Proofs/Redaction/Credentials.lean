import StorageController.Proofs.Redaction.FieldValue

namespace StorageController.Redaction

open Text

/-- Credentials of a scheme behind an authorization header have no influence on the redacted text. -/
def Hides (fields : List String) (scheme : String) : Prop :=
  ∀ front credentials credentials' back : String, Plain credentials → Plain credentials' →
    (∀ c ∈ back.toList.head?, isValueChar c = false) →
    redactWith fields (front ++ "Authorization: " ++ scheme ++ " " ++ credentials ++ back) =
      redactWith fields (front ++ "Authorization: " ++ scheme ++ " " ++ credentials' ++ back)

section Bearer

variable {before : Option Char} {scheme t front word rest : List Char}

theorem isValueChar_of_trigger (trigger : bearerRule.Trigger t) : ∀ c ∈ t, isValueChar c = true := by
  have spelled : t.map key = "bearer".toList := key_of_trigger (by decide) rfl trigger
  intro c mem
  refine isValueChar_of_key ?_
  exact ne_blank_of_reserved List.mem_cons_self _ (spelled ▸ List.mem_map_of_mem mem)

/-- A word before a blank is a keyword as a whole if a match begins with it. -/
theorem trigger_of_begins (values : ∀ c ∈ word, isValueChar c = true)
    (begins : bearerRule.Begins (word ++ ' ' :: rest)) : bearerRule.Trigger word := by
  obtain ⟨t, between, first, more, text, trigger, nonempty, separators, _⟩ :=
    masking_bearer.begins_iff.mp begins
  obtain ⟨c, between, rfl⟩ := List.exists_cons_of_ne_nil nonempty
  have blank : isBlank c = true := separators c List.mem_cons_self
  have stop : ∀ d ∈ (c :: between ++ first :: more).head?, isValueChar d = false := by
    rintro _ ⟨⟩
    simp [isValueChar, blank]
  have same := value_eq values (isValueChar_of_trigger trigger) (by rintro _ ⟨⟩; rfl) stop text
  rw [same.1]
  exact trigger

/-- No token begins in a word, unless the word ends in the keyword of tokens. -/
theorem silent_of_word {last : List Char} (values : ∀ c ∈ word ++ last, isValueChar c = true)
    (noKeyword : ∀ back, back <:+ word → back ≠ [] → ¬ bearerRule.Trigger (back ++ last)) :
    bearerRule.silentOver before (':' :: ' ' :: word) (last ++ ' ' :: rest) = true := by
  refine Rule.silentOver_of_not_begins fun front back eq nonempty begins => ?_
  have distinct := Vocabulary.distinct _ Known.bearer.mem_all
  have cases : back = ':' :: ' ' :: word ∨ back = ' ' :: word ∨ back <:+ word := by
    have suffix : back <:+ ':' :: ' ' :: word := ⟨front, eq.symm⟩
    simpa only [List.suffix_cons_iff] using suffix
  rcases cases with rfl | rfl | suffix
  · exact masking_bearer.not_begins_of_blank distinct (by rintro _ ⟨⟩; rfl) begins
  · exact masking_bearer.not_begins_of_blank distinct (by rintro _ ⟨⟩; rfl) begins
  · rw [← List.append_assoc] at begins
    refine noKeyword back suffix nonempty (trigger_of_begins (fun c mem => ?_) begins)
    refine values c ?_
    rcases List.mem_append.mp mem with inWord | inLast
    · exact List.mem_append_left _ (suffix.subset inWord)
    · exact List.mem_append_right _ inLast

/-- Credentials behind the keyword of tokens are masked, whatever comes before the header. -/
theorem apply_credentials {credentials : String} (trigger : bearerRule.Trigger t)
    (values : ∀ c ∈ word ++ t, isValueChar c = true) (plain : Plain credentials)
    (stop : ∀ c ∈ rest.head?, isValueChar c = false) :
    bearerRule.apply (front ++ (':' :: ' ' :: word ++ (t ++ ' ' :: (credentials.toList ++ rest)))) =
      bearerRule.apply front ++ (':' :: ' ' :: word ++ (keepTrigger t ++ bearerRule.apply rest)) := by
  have length : ∀ {t}, bearerRule.Trigger t → t.length = "bearer".length := by
    intro t trigger
    have spelled : t.map key = "bearer".toList := key_of_trigger (by decide) rfl trigger
    rw [← List.length_map key, spelled]
    rfl
  have silent : ∀ before : Option Char, bearerRule.silentOver before (':' :: ' ' :: word)
      (t ++ ' ' :: (credentials.toList ++ rest)) = true := by
    intro before
    refine silent_of_word values fun back _ nonempty trigger' => nonempty ?_
    have lengths := (length trigger').trans (length trigger).symm
    rw [List.length_append] at lengths
    exact List.eq_nil_of_length_eq_zero (by omega)
  have tokens : ∀ c ∈ credentials.toList, isTokenChar c = true := by
    intro c mem
    simp [isTokenChar, plain.isAlphanum c mem]
  have noBlank : ∀ c ∈ credentials.toList, isBlank c = false := by
    intro c mem
    have isValue := plain.isValueChar c mem
    simp only [isValueChar, Bool.not_eq_true', Bool.or_eq_false_iff] at isValue
    exact isValue.1.1.1
  have masked : ∀ before : Option Char,
      bearerRule.applyFrom before 0 (t ++ ([' '] ++ (credentials.toList ++ rest))) =
        keepTrigger t ++ bearerRule.apply rest := by
    intro before
    have allowed : before.all bearerRule.after = true := by cases before <;> rfl
    exact masking_bearer.applyFrom_value scanning_bearer (Vocabulary.distinct _ Known.bearer.mem_all)
      allowed trigger (List.cons_ne_nil _ _) (List.forall_mem_singleton.mpr rfl) plain.toList_ne_nil
      noBlank tokens stop
  have breaks : ∀ c ∈ (':' :: ' ' :: word ++ (t ++ ' ' :: (credentials.toList ++ rest))).head?,
      bearerRule.Breaks c := by
    rintro _ ⟨⟩
    decide
  rw [Rule.apply, Rule.applyFrom_append Known.bearer.positive breaks,
    Rule.applyFrom_of_silent (silent _)]
  exact congrArg (bearerRule.apply front ++ ·) (congrArg (':' :: ' ' :: word ++ ·) (masked _))

end Bearer

section Scheme

variable {fields : List String} {scheme : String}

theorem hides_of_bearer (values : ∀ c ∈ scheme.toList, isValueChar c = true)
    (bearer : "bearer".toList <:+ scheme.toList.map Char.toLower) : Hides fields scheme := by
  obtain ⟨t, ⟨word, eq⟩, spelled⟩ := List.suffix_map_iff.mp bearer
  have trigger : bearerRule.Trigger t :=
    ⟨Redaction.word "bearer", List.mem_singleton_self _, takes_word spelled.symm⟩
  intro front credentials credentials' back plain plain' stop
  have apply : ∀ credentials, Plain credentials → bearerRule.apply
      (front ++ "Authorization: " ++ scheme ++ " " ++ credentials ++ back).toList =
        bearerRule.apply (front ++ "Authorization").toList ++
          (':' :: ' ' :: word ++ (keepTrigger t ++ bearerRule.apply back.toList)) := by
    intro credentials plain
    rw [← apply_credentials trigger (by rwa [eq]) plain stop]
    simp [← eq]
  refine String.toList_inj.mp ?_
  rw [toList_redactWith, toList_redactWith, apply credentials plain, apply credentials' plain']

theorem apply_bearer_of_scheme {rest : List Char}
    (values : ∀ c ∈ scheme.toList, isValueChar c = true)
    (other : ¬ "bearer".toList <:+ scheme.toList.map Char.toLower)
    (alphanumeric : ∀ c ∈ scheme.toList, c.isAlphanum = true)
    (quiet : bearerRule.apply (' ' :: rest) = ' ' :: rest) :
    bearerRule.apply ("Authorization".toList ++ (':' :: ' ' :: scheme.toList ++ ' ' :: rest)) =
      "Authorization".toList ++ (':' :: ' ' :: scheme.toList ++ ' ' :: rest) := by
  have breaks : ∀ c ∈ (':' :: ' ' :: scheme.toList ++ ' ' :: rest).head?, bearerRule.Breaks c := by
    rintro _ ⟨⟩
    decide
  have silent : ∀ before : Option Char,
      bearerRule.silentOver before (':' :: ' ' :: scheme.toList) (' ' :: rest) = true := by
    intro before
    have values' : ∀ c ∈ scheme.toList ++ [], isValueChar c = true := by simpa using values
    have silent' : bearerRule.silentOver before (':' :: ' ' :: scheme.toList)
        ([] ++ ' ' :: rest) = true := by
      refine silent_of_word values' fun back suffix _ trigger => other ?_
      rw [List.append_nil] at trigger
      have spelled : back.map key = "bearer".toList := key_of_trigger (by decide) rfl trigger
      have lower : back.map key = back.map Char.toLower := by
        refine List.map_congr_left fun c mem => ?_
        refine key_eq_toLower (alphanumeric c (suffix.subset mem)) ?_
        exact ne_blank_of_reserved List.mem_cons_self _ (spelled ▸ List.mem_map_of_mem mem)
      rw [← spelled, lower]
      exact suffix.map Char.toLower
    exact silent'
  have word : bearerRule.applyFrom none 0 "Authorization".toList = "Authorization".toList := by
    decide +kernel
  have distinct := Vocabulary.distinct _ Known.bearer.mem_all
  rw [Rule.apply, Rule.applyFrom_append Known.bearer.positive breaks, word,
    Rule.applyFrom_of_silent (silent _),
    masking_bearer.applyFrom_stop distinct (by rintro _ ⟨⟩; rfl), quiet]

theorem apply_authorization_of_scheme {rest : List Char} (something : scheme ≠ "")
    (values : ∀ c ∈ scheme.toList, isValueChar c = true)
    (noColon : ∀ c ∈ scheme.toList, isColon c = false) :
    authorizationRule.apply
        ("Authorization".toList ++ (':' :: ' ' :: scheme.toList ++ ' ' :: rest)) =
      "Authorization [REDACTED]".toList ++ authorizationRule.apply (' ' :: rest) := by
  have trigger : authorizationRule.Trigger "Authorization".toList :=
    ⟨word "authorization", List.mem_singleton_self _, takes_word (by decide)⟩
  have distinct := Vocabulary.distinct _ Known.authorization.mem_all
  have nonempty : scheme.toList ≠ [] := fun empty => something (String.toList_eq_nil_iff.mp empty)
  have colons : [':', ' '].all isColon = true := by decide
  have stop : ∀ c ∈ (' ' :: rest).head?, isValueChar c = false := by
    rintro _ ⟨⟩
    rfl
  have replaced : authorizationRule.replacement "Authorization".toList =
      "Authorization [REDACTED]".toList := by
    decide
  have allowed : (none : Option Char).all authorizationRule.after = true := rfl
  have masked := masking_authorization.applyFrom_value (scanning_of_value rfl) distinct allowed trigger
    (List.cons_ne_nil _ _) (List.all_eq_true.mp colons) nonempty noColon values stop
  rwa [replaced] at masked

/-- Under another scheme the header takes the scheme for its value. -/
theorem redactWith_of_scheme (order : fields.Perm sensitiveFields) (something : scheme ≠ "")
    (alphanumeric : ∀ c ∈ scheme.toList, c.isAlphanum = true)
    (other : ¬ "bearer".toList <:+ scheme.toList.map Char.toLower) {credentials : String}
    (known : credentials = "a" ∨ credentials = "b") :
    redactWith fields ("" ++ "Authorization: " ++ scheme ++ " " ++ credentials ++ "") =
      "Authorization [REDACTED] " ++ credentials := by
  have text : ("" ++ "Authorization: " ++ scheme ++ " " ++ credentials ++ "").toList =
      "Authorization".toList ++ (':' :: ' ' :: scheme.toList ++ ' ' :: credentials.toList) := by
    simp
  have values : ∀ c ∈ scheme.toList, isValueChar c = true :=
    fun c mem => isValueChar_of_isAlphanum (alphanumeric c mem)
  have noColon : ∀ c ∈ scheme.toList, isColon c = false := by
    intro c mem
    have noAssignment := isAssignment_of_isAlphanum (alphanumeric c mem)
    simp only [isAssignment, isColon, Bool.or_eq_false_iff] at noAssignment ⊢
    exact noAssignment.1
  have quiet : ∀ rule ∈ [bearerRule, authorizationRule],
      rule.apply (' ' :: credentials.toList) = ' ' :: credentials.toList := by
    rcases known with rfl | rfl <;> decide +kernel
  have masked : "Authorization [REDACTED]".toList ++ ' ' :: credentials.toList =
      ("Authorization [REDACTED] " ++ credentials).toList := by
    simp
  have fixed : ∀ rule ∈ clientDataRule :: fields.map fieldRule,
      rule.apply ("Authorization [REDACTED] " ++ credentials).toList =
        ("Authorization [REDACTED] " ++ credentials).toList := by
    have all : ∀ rule ∈ clientDataRule :: sensitiveFields.map fieldRule,
        rule.apply ("Authorization [REDACTED] " ++ credentials).toList =
          ("Authorization [REDACTED] " ++ credentials).toList := by
      rcases known with rfl | rfl <;> decide +kernel
    intro rule mem
    exact all rule (((order.map fieldRule).cons clientDataRule).subset mem)
  have rules : laterRules fields = authorizationRule :: clientDataRule :: fields.map fieldRule := rfl
  refine String.toList_inj.mp ?_
  rw [toList_redactWith, text,
    apply_bearer_of_scheme values other alphanumeric (quiet _ List.mem_cons_self), rules,
    List.foldl_cons, apply_authorization_of_scheme something values noColon,
    quiet _ (List.mem_cons_of_mem _ List.mem_cons_self), masked]
  exact foldl_of_fixed fixed

/-- Exactly the schemes that end in the keyword of tokens keep their credentials hidden. -/
theorem hides_iff_bearer (order : fields.Perm sensitiveFields) (something : scheme ≠ "")
    (alphanumeric : scheme.toList.all Char.isAlphanum = true) :
    Hides fields scheme ↔ "bearer".toList <:+ scheme.toList.map Char.toLower := by
  have isAlphanum : ∀ c ∈ scheme.toList, c.isAlphanum = true := List.all_eq_true.mp alphanumeric
  constructor
  · intro hides
    refine Decidable.byContradiction fun other => ?_
    have plain : Plain "a" := ⟨by decide, by decide, by decide⟩
    have plain' : Plain "b" := ⟨by decide, by decide, by decide⟩
    have same := hides "" "a" "b" "" plain plain' (by simp)
    rw [redactWith_of_scheme order something isAlphanum other (Or.inl rfl),
      redactWith_of_scheme order something isAlphanum other (Or.inr rfl)] at same
    exact absurd same (by decide)
  · exact hides_of_bearer fun c mem => isValueChar_of_isAlphanum (isAlphanum c mem)

theorem hides_iff_bearer_mixed :
    redactWith ["token", "secret", "credentials", "password"]
        ("401 for token=, bearer " ++ "Authorization: " ++ "HTTPBearer" ++ " " ++ "abc123" ++
          ", again") =
      redactWith ["token", "secret", "credentials", "password"]
        ("401 for token=, bearer " ++ "Authorization: " ++ "HTTPBearer" ++ " " ++ "0" ++
          ", again") := by
  have order : ["token", "secret", "credentials", "password"].Perm sensitiveFields := by decide
  have something : "HTTPBearer" ≠ "" := by decide
  have hides := (hides_iff_bearer order something (by decide +kernel)).mpr (by decide +kernel)
  refine hides _ _ _ _ ⟨by decide, by decide +kernel, by decide +kernel⟩
    ⟨by decide, by decide +kernel, by decide +kernel⟩ ?_
  rintro _ ⟨⟩
  rfl

open TokenFirst in
/-- The credentials of another scheme stay in the open. -/
theorem credentials_behind_scheme :
    Plain "abc" ∧ Plain "xyz" ∧ redact ("" ++ "Authorization: " ++ "Basic" ++ " " ++ "abc" ++ "") ≠
      redact ("" ++ "Authorization: " ++ "Basic" ++ " " ++ "xyz" ++ "") :=
  ⟨⟨by decide, by decide +kernel, by decide +kernel⟩, ⟨by decide, by decide +kernel, by decide +kernel⟩,
    by decide +kernel⟩

end Scheme

end StorageController.Redaction
