import StorageController.Proofs.Redaction.Vocabulary

namespace StorageController.Redaction

open Text

theorem takes_append {front back : Pattern} {s : List Char} (h : (front ++ back).Takes s) :
    ∃ a b, s = a ++ b ∧ front.Takes a ∧ back.Takes b := by
  induction front generalizing s with
  | nil => exact ⟨[], s, rfl, rfl, h⟩
  | cons piece pieces ih =>
    obtain ⟨first, others, rfl, takes, h⟩ := h
    obtain ⟨a, b, rfl, takes', h⟩ := ih h
    exact ⟨first ++ a, b, by simp, ⟨first, a, rfl, takes, takes'⟩, h⟩

theorem key_of_takes_word {letters t : List Char} (small : ∀ letter ∈ letters, letter.isLower = true)
    (h : Pattern.Takes (letters.map fun letter => .one (foldsTo letter)) t) : t.map key = letters := by
  induction letters generalizing t with
  | nil =>
    obtain rfl : t = [] := h
    rfl
  | cons letter letters ih =>
    obtain ⟨first, others, rfl, ⟨c, rfl, folds⟩, h⟩ := h
    obtain ⟨one, rest⟩ := List.forall_mem_cons.mp small
    simp [key_of_foldsTo one folds, ih rest h]

theorem key_of_word {letters : String} {t : List Char}
    (small : letters.toList.all Char.isLower = true) (h : (word letters).Takes t) :
    t.map key = letters.toList :=
  key_of_takes_word (List.all_eq_true.mp small) h

/-- A word is found in any case. -/
theorem takes_word {letters : String} {t : List Char} (h : t.map Char.toLower = letters.toList) :
    (word letters).Takes t := by
  rw [word, ← h]
  clear h
  induction t with
  | nil => rfl
  | cons c t ih => exact ⟨[c], t, rfl, ⟨c, rfl, by simp [foldsTo]⟩, ih⟩

theorem key_of_trigger {rule : Rule} {letters : String} {t : List Char}
    (small : letters.toList.all Char.isLower = true)
    (triggers : rule.triggers = [word letters]) (h : rule.Trigger t) : t.map key = letters.toList := by
  obtain ⟨_, mem, takes⟩ := h
  rw [triggers] at mem
  obtain rfl := List.mem_singleton.mp mem
  exact key_of_word small takes

theorem key_of_optional_joint {t : List Char} (h : (Piece.optional isJoint).Takes t) :
    t.map key = [] ∨ t.map key = [' '] := by
  rcases h with rfl | ⟨c, rfl, joint⟩
  · exact Or.inl rfl
  · exact Or.inr (by rw [List.map_singleton, key_of_isJoint joint])

theorem key_of_clientData {kind : String} {t : List Char}
    (small : kind.toList.all Char.isLower = true) (h : (clientData kind).Takes t) :
    t.map key ∈ Vocabulary.clientWords kind := by
  obtain ⟨front, _, rfl, begins, second, data, rfl, joint₂, h₃⟩ := takes_append h
  obtain ⟨client, _, rfl, h₁, first, middle, rfl, joint₁, h₂⟩ := takes_append begins
  rw [List.map_append, List.map_append, List.map_append, List.map_append,
    key_of_word (by decide) h₁, key_of_word small h₂, key_of_word (by decide) h₃]
  rcases key_of_optional_joint joint₁ with eq₁ | eq₁ <;>
    rcases key_of_optional_joint joint₂ with eq₂ | eq₂ <;>
    simp [eq₁, eq₂, Vocabulary.clientWords]

/-- What `s` begins with is a match of the rule. -/
def Rule.Begins (rule : Rule) (s : List Char) : Prop :=
  ∃ t middle rest, s = t ++ (middle ++ rest) ∧ rule.Trigger t ∧ rule.tail.Takes middle

theorem Rule.begins_of_matchAt {rule : Rule} {before : Option Char} {s replacement : List Char}
    {taken : Nat} (h : rule.matchAt before s = some (taken, replacement)) :
    before.all rule.after = true ∧ rule.Begins s := by
  obtain ⟨allowed, t, middle, rfl, trigger, _, h⟩ := matchAt_sound h
  obtain ⟨front, rest, rfl, takes, _⟩ := Pattern.run_sound h
  exact ⟨allowed, t, front, rest, rfl, trigger, takes⟩

theorem Rule.matchAt_of_begins {rule : Rule} {before : Option Char} {s : List Char}
    (allowed : before.all rule.after = true) (h : rule.Begins s) :
    ∃ taken replacement, rule.matchAt before s = some (taken, replacement) := by
  obtain ⟨t, middle, rest, rfl, trigger, takes⟩ := h
  have matched : (rule.matchAt before (t ++ (middle ++ rest))).isSome :=
    matchAt_complete allowed trigger takes
  obtain ⟨⟨taken, replacement⟩, eq⟩ := Option.isSome_iff_exists.mp matched
  exact ⟨taken, replacement, eq⟩

/-- The values that a rule masks end where a value ends. -/
def Rule.Bounded (rule : Rule) : Prop :=
  ∀ before front last rest replacement,
    rule.matchAt before (front ++ last :: rest) = some (front.length + 1, replacement) →
    ∀ c ∈ rest.head?, isValueChar c = false

/-- A rule with its vocabulary: a keyword, separators, and a value. What it has masked it leaves as it
is, and what it leaves as it is, is masked. -/
structure Masking (rule : Rule) (v : Vocabulary) (separator value : Char → Bool) : Prop where
  word : ∀ t, rule.Trigger t → t.map key ∈ v.words
  masked : ∀ t, rule.Trigger t → (rule.replacement t).map key = v.masked (t.map key)
  tail : ∃ extra, rule.tail = .some separator :: .some value :: extra ∧ Pattern.Takes extra []
  separator_key : ∀ c, separator c = true → key c = ' '
  value_key : ∀ c, key c ≠ ' ' → value c = true
  stays : ∀ before s taken replacement, rule.matchAt before s = some (taken, replacement) →
    replacement = s.take taken →
    ∃ t rest, rule.Trigger t ∧ s = rule.replacement t ++ rest ∧
      ∀ c ∈ rest.head?, isValueChar c = false
  fixed : ∀ before t rest taken replacement, rule.Trigger t →
    (rule.Bounded → ∀ c ∈ rest.head?, isValueChar c = false) →
    rule.matchAt before (rule.replacement t ++ rest) = some (taken, replacement) →
    replacement = (rule.replacement t ++ rest).take taken

/-- A match in its parts: a keyword, what stands between, and the first character of a value. -/
def Parts (rule : Rule) (separator value : Char → Bool) (s : List Char) : Prop :=
  ∃ t between first rest, s = t ++ (between ++ first :: rest) ∧ rule.Trigger t ∧ between ≠ [] ∧
    (∀ c ∈ between, separator c = true) ∧ value first = true

section Matches

variable {rule : Rule} {v : Vocabulary} {separator value : Char → Bool} {before : Option Char}
  {s t between rest more replacement : List Char} {taken : Nat}

theorem begins_iff_parts {extra : Pattern} (none : extra.Takes [])
    (tail : rule.tail = .some separator :: .some value :: extra) :
    rule.Begins s ↔ Parts rule separator value s := by
  constructor
  · rintro ⟨t, middle, rest, rfl, trigger, takes⟩
    rw [tail] at takes
    obtain ⟨between, _, rfl, ⟨nonempty, separators⟩, value, more, rfl, ⟨something, all⟩, _⟩ := takes
    cases value with
    | nil => exact absurd rfl something
    | cons first others =>
      exact ⟨t, between, first, others ++ (more ++ rest), by simp, trigger, nonempty, separators,
        all first List.mem_cons_self⟩
  · rintro ⟨t, between, first, rest, rfl, trigger, nonempty, separators, isValue⟩
    refine ⟨t, between ++ [first], rest, by simp, trigger, ?_⟩
    rw [tail]
    exact ⟨between, [first], rfl, ⟨nonempty, separators⟩, [first], [], rfl,
      ⟨by simp, by simpa using isValue⟩, none⟩

theorem Masking.begins_iff (m : Masking rule v separator value) :
    rule.Begins s ↔ Parts rule separator value s := by
  obtain ⟨extra, tail, none⟩ := m.tail
  exact begins_iff_parts none tail

theorem meets_of_prefix {a b whole : List Char} (h : a <+: whole) (h' : b <+: whole) :
    Meets (a.map key) (b.map key) :=
  List.prefix_or_prefix_of_prefix (h.map key) (h'.map key)

theorem keyword_eq {t' joint : List Char} (distinct : v.Distinct)
    (word : ∀ t, rule.Trigger t → t.map key ∈ v.words) (trigger : rule.Trigger t)
    {other : List Char} (trigger' : rule.Trigger other)
    (masked : (t' ++ joint).map key = v.masked (t.map key)) (same : t'.map key = t.map key)
    (eq : other ++ rest = t' ++ (joint ++ more)) : other = t' := by
  have meets : Meets (other.map key) ((t' ++ joint).map key) :=
    meets_of_prefix (List.prefix_append _ _) ⟨more, by rw [eq, List.append_assoc]⟩
  rw [masked] at meets
  have keys := (distinct _ (word _ trigger')).2 _ (word _ trigger) meets
  have lengths : other.length = t'.length := by
    rw [← List.length_map key, keys, ← same, List.length_map]
  exact (List.append_inj eq lengths).1

theorem matchAt_value (tail : rule.tail = [.some separator, .some isValueChar])
    (h : rule.matchAt before s = some (taken, replacement)) :
    ∃ t between value rest, s = t ++ (between ++ (value ++ rest)) ∧ rule.Trigger t ∧
      replacement = rule.replacement t ∧ taken = (t ++ (between ++ value)).length ∧
      between ≠ [] ∧ (∀ c ∈ between, separator c = true) ∧ value ≠ [] ∧
      (∀ c ∈ value, isValueChar c = true) ∧ ∀ c ∈ rest.head?, isValueChar c = false := by
  obtain ⟨_, t, middle, rfl, trigger, rfl, h⟩ := Rule.matchAt_sound h
  rw [tail] at h
  obtain ⟨between, back, rfl, ⟨nonempty, separators⟩, h⟩ := piece_sound h
  cases back with
  | nil => cases h
  | cons first rest =>
    simp only [Pattern.run, Piece.run] at h
    split at h
    next isValue =>
      rw [tryMany_greedy (by exact fun _ => rfl)] at h
      obtain ⟨rfl, _⟩ := Prod.mk.inj (Option.some.inj h)
      refine ⟨t, between, first :: rest.takeWhile isValueChar, rest.dropWhile isValueChar, ?_, trigger,
        rfl, ?_, nonempty, separators, by simp, ?_, ?_⟩
      · simp [List.takeWhile_append_dropWhile]
      · have split := congrArg List.length (@List.takeWhile_append_dropWhile _ isValueChar rest)
        simp only [List.length_append, List.length_cons] at split ⊢
        omega
      · exact List.forall_mem_cons.mpr ⟨isValue, List.all_eq_true.mp List.all_takeWhile⟩
      · intro c mem
        have stop := List.head?_dropWhile_not isValueChar rest
        rw [Option.mem_def.mp mem] at stop
        exact stop
    next => cases h

/-- A text that is taken as far as it goes is told by where it stops. -/
theorem value_eq {value other rest more : List Char} (all : ∀ c ∈ value, isValueChar c = true)
    (all' : ∀ c ∈ other, isValueChar c = true) (stop : ∀ c ∈ rest.head?, isValueChar c = false)
    (stop' : ∀ c ∈ more.head?, isValueChar c = false) (eq : value ++ rest = other ++ more) :
    value = other ∧ rest = more := by
  have takes : ∀ a b : List Char, (∀ c ∈ a, isValueChar c = true) →
      (∀ c ∈ b.head?, isValueChar c = false) → (a ++ b).takeWhile isValueChar = a := by
    intro a b all stop
    rw [List.takeWhile_append_of_pos all]
    cases b with
    | nil => simp
    | cons c b => simp [stop c rfl]
  have same : value = other := by rw [← takes value rest all stop, eq, takes other more all' stop']
  exact ⟨same, List.append_cancel_left (same ▸ eq)⟩

/-- The separators before a mask are those that were put there. -/
theorem between_eq {joint value : List Char} (ends : joint = [' '] ∨ joint = [':', ' '])
    (bracket : separator '[' = false) (nonempty : between ≠ [])
    (separators : ∀ c ∈ between, separator c = true) (something : value ≠ [])
    (all : ∀ c ∈ value, isValueChar c = true)
    (eq : between ++ (value ++ rest) = joint ++ '[' :: more) :
    between = joint ∧ value ++ rest = '[' :: more := by
  obtain ⟨first, value, rfl⟩ := List.exists_cons_of_ne_nil something
  have isValue := all first List.mem_cons_self
  have noBracket : ∀ c ∈ between, c ≠ '[' := by
    rintro c mem rfl
    exact Bool.false_ne_true (bracket.symm.trans (separators _ mem))
  obtain ⟨c, between, rfl⟩ := List.exists_cons_of_ne_nil nonempty
  rcases ends with rfl | rfl
  · obtain ⟨rfl, tails⟩ : c = ' ' ∧ between ++ (first :: value ++ rest) = '[' :: more := by
      simpa using eq
    cases between with
    | nil => exact ⟨rfl, tails⟩
    | cons d between => exact absurd (List.cons.inj tails).1 (noBracket d (by simp))
  · obtain ⟨rfl, tails⟩ :
        c = ':' ∧ between ++ (first :: value ++ rest) = ' ' :: '[' :: more := by
      simpa using eq
    cases between with
    | nil =>
      obtain rfl : first = ' ' := (List.cons.inj tails).1
      cases isValue
    | cons d between =>
      obtain ⟨rfl, ends⟩ : d = ' ' ∧ between ++ (first :: value ++ rest) = '[' :: more := by
        simpa using tails
      cases between with
      | nil => exact ⟨rfl, ends⟩
      | cons e between => exact absurd (List.cons.inj ends).1 (noBracket e (by simp))

theorem isValueChar_mask : ∀ c ∈ mask.toList, isValueChar c = true :=
  List.all_eq_true.mp (by decide)

theorem bounded_of_tail (tail : rule.tail = [.some separator, .some isValueChar]) :
    rule.Bounded := by
  intro before front last rest replacement h
  obtain ⟨t, between, value, others, eq, _, _, taken, _, _, _, _, stop⟩ := matchAt_value tail h
  have same : rest = others := by
    have left : (front ++ last :: rest).drop (front.length + 1) = rest := by simp
    have right : (t ++ (between ++ (value ++ others))).drop (t ++ (between ++ value)).length =
        others := by
      have assoc : t ++ (between ++ (value ++ others)) = t ++ (between ++ value) ++ others := by
        simp
      rw [assoc, List.drop_left]
    rw [← left, eq, taken, right]
  rw [same]
  exact stop

/-- A rule that masks a value, keyword by keyword. -/
theorem masking_of_value {joint : List Char} (distinct : v.Distinct)
    (word : ∀ t, rule.Trigger t → t.map key ∈ v.words)
    (tail : rule.tail = [.some separator, .some isValueChar])
    (separator_key : ∀ c, separator c = true → key c = ' ') (bracket : separator '[' = false)
    (ends : joint = [' '] ∨ joint = [':', ' ']) (joint_key : joint.map key = v.joint)
    (kept : ∀ t, rule.Trigger t → ∃ t', rule.replacement t = t' ++ (joint ++ mask.toList) ∧
      t'.map key = t.map key ∧ (rule.Trigger t' → rule.replacement t' = rule.replacement t)) :
    Masking rule v separator isValueChar where
  word := word
  masked := by
    intro t trigger
    obtain ⟨t', eq, same, _⟩ := kept t trigger
    rw [eq, List.map_append, List.map_append, same, joint_key]
    rfl
  tail := ⟨[], tail, rfl⟩
  separator_key := separator_key
  value_key := fun c => isValueChar_of_key
  stays := by
    intro before s taken replacement h unchanged
    obtain ⟨t, between, value, rest, rfl, trigger, rfl, rfl, _, _, _, _, stop⟩ :=
      matchAt_value tail h
    refine ⟨t, rest, trigger, ?_, stop⟩
    have assoc : t ++ (between ++ (value ++ rest)) = t ++ (between ++ value) ++ rest := by simp
    rw [unchanged, assoc, List.take_left]
  fixed := by
    intro before t rest taken replacement trigger stop h
    obtain ⟨t', masked, same, again⟩ := kept t trigger
    obtain ⟨other, between, value, more, eq, trigger', rfl, rfl, nonempty, separators, something,
      all, stop'⟩ := matchAt_value tail h
    rw [masked, List.append_assoc, List.append_assoc] at eq
    have keys : (t' ++ (joint ++ mask.toList)).map key = v.masked (t.map key) := by
      rw [List.map_append, List.map_append, same, joint_key]
      rfl
    obtain rfl : other = t' :=
      keyword_eq distinct word trigger trigger' keys same (by rw [← eq, List.append_assoc])
    obtain ⟨rfl, values⟩ := between_eq ends bracket nonempty separators something all
      (List.append_cancel_left eq).symm
    obtain ⟨rfl, rfl⟩ := value_eq all isValueChar_mask stop' (stop (bounded_of_tail tail)) values
    rw [again trigger', masked, List.take_left]

/-- A masked token is no token. -/
theorem not_begins_masked_bearer (trigger : bearerRule.Trigger t) :
    ¬ bearerRule.Begins (keepTrigger t ++ rest) := by
  have word : ∀ t, bearerRule.Trigger t → t.map key ∈ Vocabulary.bearer.words :=
    fun _ trigger => List.mem_singleton.mpr (key_of_trigger (by decide) rfl trigger)
  have keys : (t ++ ' ' :: mask.toList).map key = Vocabulary.bearer.masked (t.map key) := by
    rw [List.map_append]
    rfl
  have padding : Pattern.Takes [.many (· == '=')] [] := ⟨[], [], rfl, List.forall_mem_nil _, rfl⟩
  rw [begins_iff_parts padding rfl]
  rintro ⟨other, between, first, more, whole, trigger', nonempty, separators, isToken⟩
  rw [keepTrigger, List.append_assoc] at whole
  obtain rfl : other = t :=
    keyword_eq (Vocabulary.distinct _ (by decide)) word trigger trigger' keys rfl whole.symm
  have tails : between ++ first :: more = ' ' :: '[' :: ("REDACTED]".toList ++ rest) :=
    (List.append_cancel_left whole).symm
  cases between with
  | nil => exact nonempty rfl
  | cons c between =>
    have second := (List.cons.inj tails).2
    cases between with
    | nil =>
      obtain rfl : first = '[' := (List.cons.inj second).1
      cases isToken
    | cons d between =>
      obtain rfl : d = '[' := (List.cons.inj second).1
      cases separators '[' (by simp)

theorem masking_bearer : Masking bearerRule .bearer isBlank isTokenChar where
  word := fun _ trigger => List.mem_singleton.mpr (key_of_trigger (by decide) rfl trigger)
  masked := by
    intro t _
    exact List.map_append
  tail := ⟨[.many (· == '=')], rfl, [], [], rfl, List.forall_mem_nil _, rfl⟩
  separator_key := fun _ => key_of_isBlank
  value_key := fun _ => isTokenChar_of_key
  stays := by
    intro before s taken replacement h unchanged
    obtain ⟨_, t, _, _, trigger, eq, _⟩ := Rule.matchAt_sound h
    have whole : s = keepTrigger t ++ s.drop taken := by
      rw [← show replacement = keepTrigger t from eq, unchanged, List.take_append_drop]
    exact absurd (whole ▸ (Rule.begins_of_matchAt h).2) (not_begins_masked_bearer trigger)
  fixed := by
    intro before t rest taken replacement trigger _ h
    exact absurd (Rule.begins_of_matchAt h).2 (not_begins_masked_bearer trigger)

theorem masking_authorization : Masking authorizationRule .authorization isColon isValueChar :=
  masking_of_value (Vocabulary.distinct _ (by decide))
    (fun _ trigger => List.mem_singleton.mpr (key_of_trigger (by decide) rfl trigger))
    rfl (fun _ => key_of_isColon) rfl (Or.inl rfl) rfl fun t _ => ⟨t, rfl, rfl, fun _ => rfl⟩

theorem masking_clientData : Masking clientDataRule .clientData isColon isValueChar :=
  masking_of_value (Vocabulary.distinct _ (by decide))
    (by
      rintro t ⟨_, mem, takes⟩
      rcases List.mem_cons.mp mem with rfl | mem
      · exact List.mem_append_left _ (key_of_clientData (by decide) takes)
      · obtain rfl := List.mem_singleton.mp mem
        exact List.mem_append_right _ (key_of_clientData (by decide) takes))
    rfl (fun _ => key_of_isColon) rfl (Or.inl rfl) rfl fun t _ => ⟨t, rfl, rfl, fun _ => rfl⟩

theorem small_of_sensitiveFields : ∀ name ∈ sensitiveFields,
    name.toList.all Char.isLower = true ∧ name.toList.map key = name.toList := by
  decide

theorem field_mem_all {name : String} (mem : name ∈ sensitiveFields) :
    Vocabulary.field name ∈ Vocabulary.all :=
  List.mem_append_right _ (List.mem_map_of_mem mem)

theorem masking_field {name : String} (mem : name ∈ sensitiveFields) :
    Masking (fieldRule name) (.field name) isAssignment isValueChar := by
  obtain ⟨small, same⟩ := small_of_sensitiveFields name mem
  have word : ∀ t, (fieldRule name).Trigger t → t.map key = name.toList :=
    fun _ => key_of_trigger small rfl
  exact masking_of_value (Vocabulary.distinct _ (field_mem_all mem))
    (fun t trigger => List.mem_singleton.mpr (word t trigger)) rfl (fun _ => key_of_isAssignment) rfl
    (Or.inr rfl) rfl fun t trigger => ⟨name.toList, rfl, by rw [same, word t trigger], fun _ => rfl⟩

end Matches

end StorageController.Redaction
