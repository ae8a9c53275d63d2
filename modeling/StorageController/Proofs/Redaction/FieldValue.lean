import StorageController.Proofs.Redaction.Extent

namespace StorageController.Redaction

open Text

/-- The words that a keyword begins with. -/
def reserved : List String :=
  ["bearer", "authorization", "client"] ++ sensitiveFields

theorem letters_of_reserved : ∀ word ∈ reserved, word.toList ≠ [] ∧ ' ' ∉ word.toList := by
  decide

theorem ne_blank_of_reserved {word : String} (mem : word ∈ reserved) : ∀ c ∈ word.toList, c ≠ ' ' := by
  rintro c inside rfl
  exact (letters_of_reserved word mem).2 inside

theorem letters_of_field : ∀ name ∈ sensitiveFields, ∀ c ∈ name.toList, key c ≠ ' ' := by
  have all : ∀ name ∈ sensitiveFields, name.toList.all (fun c => key c != ' ') = true := by decide
  intro name mem c inside
  exact bne_iff_ne.mp (List.all_eq_true.mp (all name mem) c inside)

section Letters

variable {word front back s : List Char}

theorem prefix_of_prefix_append (outside : ∀ c ∈ back.head?, c ∉ word) (h : word <+: front ++ back) :
    word <+: front := by
  rcases List.prefix_or_prefix_of_prefix h (List.prefix_append front back) with inside | ⟨reached, rfl⟩
  · exact inside
  · cases reached with
    | nil => simp
    | cons c reached =>
      obtain ⟨more, eq⟩ := (List.prefix_append_right_inj front).mp h
      subst eq
      exact absurd (by simp) (outside c rfl)

theorem suffix_of_suffix_append (outside : ∀ c ∈ front.getLast?, c ∉ word)
    (h : word <:+ front ++ back) : word <:+ back := by
  rw [← List.reverse_prefix] at h ⊢
  rw [List.reverse_append] at h
  refine prefix_of_prefix_append ?_ h
  rw [List.head?_reverse]
  exact fun c mem inside => outside c mem (List.mem_reverse.mp inside)

theorem infix_of_infix_append (nonempty : word ≠ []) (outside : ' ' ∉ word)
    (h : word <:+: front ++ ' ' :: back) : word <:+: front ∨ word <:+: back := by
  induction front with
  | nil =>
    rcases List.infix_cons_iff.mp h with ⟨more, eq⟩ | later
    · obtain ⟨c, word, rfl⟩ := List.exists_cons_of_ne_nil nonempty
      obtain ⟨rfl, _⟩ := List.cons.inj eq
      exact absurd List.mem_cons_self outside
    · exact Or.inr later
  | cons c front ih =>
    rcases List.infix_cons_iff.mp h with here | later
    · have inside : word <+: c :: front :=
        prefix_of_prefix_append (by rintro _ ⟨⟩; exact outside) here
      exact Or.inl inside.isInfix
    · exact (ih later).imp_left fun inside => List.infix_cons_iff.mpr (Or.inr inside)

/-- A word without blanks lies before the separators or behind them. -/
theorem infix_of_infix_separated (nonempty : word ≠ []) (outside : ' ' ∉ word) (something : s ≠ [])
    (blank : ∀ c ∈ s, c = ' ') (h : word <:+: front ++ (s ++ back)) :
    word <:+: front ∨ word <:+: back := by
  induction s generalizing front with
  | nil => exact absurd rfl something
  | cons c s ih =>
    obtain ⟨rfl, blanks⟩ := List.forall_mem_cons.mp blank
    rcases infix_of_infix_append nonempty outside h with inside | later
    · exact Or.inl inside
    · by_cases last : s = []
      · subst last
        exact Or.inr later
      · have later' : word <:+: [] ++ (s ++ back) := later
        have further := ih last blanks later'
        exact further.imp_left fun inside => inside.trans List.nil_infix

end Letters

section Rules

variable {rule : Rule} {v : Vocabulary} {separator value : Char → Bool} {before : Option Char}
  {s rest word : List Char}

/-- A rule is silent over a text in which the word that its keywords begin with does not occur. -/
theorem Masking.silent_of_absent (m : Masking rule v separator value)
    (begins : ∀ keyword ∈ v.words, word <+: keyword) (outside : ' ' ∉ word)
    (absent : ¬ word <:+: s.map key) (blank : ∀ c ∈ rest.head?, key c = ' ') :
    rule.silentOver before s rest = true := by
  refine Rule.silentOver_of_not_begins fun front back eq _ begun => ?_
  obtain ⟨t, middle, more, text, trigger, _⟩ := begun
  have spelled : word <+: (back ++ rest).map key :=
    (begins _ (m.word t trigger)).trans ((text ▸ List.prefix_append t _ : t <+: back ++ rest).map key)
  rw [List.map_append] at spelled
  have inside : word <+: back.map key := by
    refine prefix_of_prefix_append ?_ spelled
    intro c mem
    rw [List.head?_map, Option.mem_def, Option.map_eq_some_iff] at mem
    obtain ⟨d, first, rfl⟩ := mem
    rw [blank d first]
    exact outside
  refine absent (inside.isInfix.trans ?_)
  rw [eq, List.map_append]
  exact (List.suffix_append _ _).isInfix

/-- A text of letters alone ends before any value. -/
theorem Masking.silent_of_letters (m : Masking rule v separator value)
    (letters : ∀ c ∈ s, key c ≠ ' ') : rule.silentOver before s [] = true := by
  refine Rule.silentOver_of_not_begins fun front back eq _ begun => ?_
  obtain ⟨t, between, first, more, text, _, nonempty, separators, _⟩ := m.begins_iff.mp begun
  obtain ⟨c, between, rfl⟩ := List.exists_cons_of_ne_nil nonempty
  refine letters c ?_ (m.separator_key c (separators c List.mem_cons_self))
  rw [eq, ← List.append_nil back, text]
  simp

/-- A name that the rewritten text ends with is one that the text ended with: a mask ends in a bracket. -/
theorem Rule.Rewrites.suffix {out name : List Char} (h : rule.Rewrites before s out)
    (ends : ∀ t, ∃ front, rule.replacement t = front ++ [']']) (named : ']' ∉ name)
    (suffix : name <:+ out) : name <:+ s := by
  induction h with
  | done => exact suffix
  | @keep before c rest out unmatched further ih =>
    rcases List.suffix_cons_iff.mp suffix with rfl | inside
    · rcases further.split with rfl | ⟨kept, t, more, out', _, _, rfl⟩
      · exact List.suffix_rfl
      · obtain ⟨front, mask⟩ := ends t
        refine absurd ?_ named
        simp [mask]
    · exact (ih inside).trans (List.suffix_cons c rest)
  | @replace before front rest replacement out last matched further ih =>
    obtain ⟨_, t, _, _, _, rfl, _⟩ := Rule.matchAt_sound matched
    obtain ⟨front', mask⟩ := ends t
    have inside : name <:+ out := by
      refine suffix_of_suffix_append ?_ suffix
      rw [mask, List.getLast?_append]
      rintro _ ⟨⟩
      exact named
    exact (ih inside).trans ((List.suffix_cons last rest).trans (List.suffix_append front _))

end Rules

namespace Known

variable {rule : Rule} {v : Vocabulary} {s name : List Char}

theorem ends (known : Known rule v) (t : List Char) :
    ∃ front, rule.replacement t = front ++ [']'] := by
  have kept : keepTrigger t = t ++ " [REDACTED".toList ++ [']'] := by simp [keepTrigger, mask]
  cases known with
  | bearer => exact ⟨_, kept⟩
  | authorization => exact ⟨_, kept⟩
  | clientData => exact ⟨_, kept⟩
  | @field name _ => exact ⟨name.toList ++ ": [REDACTED".toList, by simp [fieldRule, mask]⟩

theorem begins (known : Known rule v) : ∃ word ∈ reserved,
    (∀ keyword ∈ v.words, word.toList <+: keyword) ∧
      (word ∉ sensitiveFields ∨ v = .field word) := by
  cases known with
  | bearer => exact ⟨"bearer", by decide, by decide, Or.inl (by decide)⟩
  | authorization => exact ⟨"authorization", by decide, by decide, Or.inl (by decide)⟩
  | clientData => exact ⟨"client", by decide, by decide +kernel, Or.inl (by decide)⟩
  | @field name mem =>
    refine ⟨name, List.mem_append_right _ mem, ?_, Or.inr rfl⟩
    exact List.forall_mem_singleton.mpr List.prefix_rfl

/-- No keyword goes on with the name of a field. -/
theorem fresh {name : String} (known : Known rule v) (mem : name ∈ sensitiveFields)
    (rest : List Char) : Fresh v (name.toList ++ rest) where
  letter := by
    have nonempty := (letters_of_reserved name (List.mem_append_right _ mem)).1
    obtain ⟨c, others, eq⟩ := List.exists_cons_of_ne_nil nonempty
    refine ⟨c, others ++ rest, by rw [eq]; rfl, letters_of_field name mem c ?_⟩
    rw [eq]
    exact List.mem_cons_self
  unreached := by
    have all : ∀ v ∈ Vocabulary.all, ∀ name ∈ sensitiveFields, ∀ word ∈ v.words,
        ∀ k < word.length, word[k]? = some ' ' → ¬ Meets (word.drop (k + 1)) name.toList := by
      decide +kernel
    rintro word spelled front back rfl meets
    refine all v known.mem_all name mem _ spelled front.length (by simp) (by simp) ?_
    have after : (front ++ ' ' :: back).drop (front.length + 1) = back := by simp
    rw [List.map_append, (small_of_sensitiveFields name mem).2] at meets
    rw [after]
    rcases meets with inside | beyond
    · exact List.prefix_or_prefix_of_prefix inside (List.prefix_append _ _)
    · exact Or.inr ((List.prefix_append _ _).trans beyond)

end Known

/-- A value without keywords: ASCII letters and digits that spell none in any case. -/
structure Plain (value : String) : Prop where
  nonempty : value ≠ ""
  alphanumeric : value.toList.all Char.isAlphanum = true
  unreserved : ∀ word ∈ reserved, ¬ word.toList <:+: value.toList.map Char.toLower

/-- A value given to a field. -/
def assignment (name : String) (separators : List Char) (value : String) : List Char :=
  name.toList ++ (separators ++ value.toList)

section Assignment

variable {rule : Rule} {v : Vocabulary} {name value : String} {separators front back : List Char}
  {before : Option Char}

theorem Ended.blank (ended : Ended none front) : ∀ c ∈ front.getLast?, key c = ' ' := by
  intro c mem
  refine Decidable.byContradiction fun letter => ?_
  have noWord : isWord c = false := ended c (by rw [Option.or_none]; exact mem)
  rw [isWord_of_key letter] at noWord
  cases noWord

theorem Plain.toList_ne_nil (plain : Plain value) : value.toList ≠ [] :=
  fun empty => plain.nonempty (String.toList_eq_nil_iff.mp empty)

theorem Plain.isAlphanum (plain : Plain value) : ∀ c ∈ value.toList, c.isAlphanum = true :=
  List.all_eq_true.mp plain.alphanumeric

theorem Plain.isValueChar (plain : Plain value) : ∀ c ∈ value.toList, isValueChar c = true :=
  fun c mem => isValueChar_of_isAlphanum (plain.isAlphanum c mem)

/-- A plain value has no reserved word as `key` reads it either. -/
theorem Plain.absent {word : String} (plain : Plain value) (mem : word ∈ reserved) :
    ¬ word.toList <:+: value.toList.map key := by
  intro spelled
  obtain ⟨part, inside, eq⟩ := List.infix_map_iff.mp spelled
  have letter : ∀ c ∈ part, key c = c.toLower := by
    intro c found
    refine key_eq_toLower (plain.isAlphanum c (inside.subset found)) ?_
    intro blank
    refine (letters_of_reserved word mem).2 ?_
    rw [eq, ← blank]
    exact List.mem_map_of_mem found
  refine plain.unreserved word mem ?_
  rw [eq, List.map_congr_left letter]
  exact inside.map Char.toLower

/-- The words of other keywords do not occur where a plain value is given to a field. -/
theorem absent_assignment {word : String} (mem : name ∈ sensitiveFields) (known : word ∈ reserved)
    (other : word ≠ name) (something : separators ≠ [])
    (assigns : ∀ c ∈ separators, isAssignment c = true) (plain : Plain value) :
    ¬ word.toList <:+: (assignment name separators value).map key := by
  have apart : ∀ name ∈ sensitiveFields, ∀ word ∈ reserved, word ≠ name →
      ¬ word.toList <:+: name.toList := by
    decide +kernel
  obtain ⟨nonempty, outside⟩ := letters_of_reserved word known
  have blank : ∀ c ∈ separators.map key, c = ' ' := by
    intro c found
    obtain ⟨d, isSeparator, rfl⟩ := List.mem_map.mp found
    exact key_of_isAssignment (assigns d isSeparator)
  intro spelled
  rw [assignment, List.map_append, List.map_append, (small_of_sensitiveFields name mem).2] at spelled
  rcases infix_of_infix_separated nonempty outside (by simpa using something) blank spelled with
    inName | inValue
  · exact apart name mem word known other inName
  · exact plain.absent known inValue

/-- What a rule does to the text up to the name of a field: the name stays, whatever comes behind it,
or a match that begins before the name goes on over it. -/
theorem Known.apply_name (known : Known rule v) (mem : name ∈ sensitiveFields)
    (ended : Ended none front) :
    (∃ front', Ended none front' ∧ rule.apply (front ++ name.toList) = front' ++ name.toList ∧
        ∀ rest, rule.apply (front ++ (name.toList ++ rest)) =
          front' ++ rule.applyFrom front.getLast? 0 (name.toList ++ rest)) ∨
      ¬ name.toList <:+ rule.apply (front ++ name.toList) ∧ (v = .bearer ∨
        ∃ out, ∀ inside rest, (∀ c ∈ inside, isValueChar c = true) →
          (∀ c ∈ rest.head?, isValueChar c = false) →
          rule.apply (front ++ (name.toList ++ (inside ++ rest))) = out ++ rule.apply rest) := by
  obtain ⟨separator, value, skip, m, scan, kind⟩ := known.scanning
  have distinct := Vocabulary.distinct v known.mem_all
  have letters := letters_of_field name mem
  have nonempty := (letters_of_reserved name (List.mem_append_right _ mem)).1
  rcases m.passage scan distinct known.ends ended.blank none with
    ⟨front', ended', rewritten⟩ | @⟨out, t, trigger, rewritten⟩
  · rw [Option.or_none] at rewritten
    have alone : Fresh v name.toList := by simpa using known.fresh mem []
    have silent : rule.silentOver front.getLast? name.toList [] = true := m.silent_of_letters letters
    have kept := Rule.applyFrom_of_silent silent
    rw [List.append_nil, Rule.applyFrom, List.append_nil] at kept
    refine Or.inl ⟨front', ended' ended, ?_, fun rest => rewritten _ (known.fresh mem rest)⟩
    rw [Rule.apply, rewritten _ alone, kept]
  · have across := m.apply_across scan distinct letters nonempty (known.fresh mem) rewritten
    refine Or.inr ⟨fun named => ?_, kind.imp_right ?_⟩
    · have masked := across [] [] (List.forall_mem_nil _) (by simp)
      obtain ⟨front', mask⟩ := known.ends t
      have outside : ∀ c ∈ (out ++ rule.replacement t).getLast?, c ∉ name.toList := by
        rw [mask, ← List.append_assoc, List.getLast?_concat]
        rintro _ ⟨⟩ found
        exact letters _ found (by decide)
      rw [List.append_nil, List.append_nil, ← List.append_assoc out] at masked
      rw [masked] at named
      exact nonempty (List.suffix_nil.mp (suffix_of_suffix_append outside named))
    · rintro rfl
      refine ⟨out ++ rule.replacement t, fun inside rest all stop => ?_⟩
      rw [across inside rest all stop, List.append_assoc]

theorem isValueChar_of_isAssignment {c : Char} (h : isAssignment c = true)
    (noBlank : isBlank c = false) : Redaction.isValueChar c = true := by
  simp only [isAssignment, noBlank, Bool.false_or, Bool.or_eq_true, beq_iff_eq] at h
  rcases h with rfl | rfl <;> rfl

theorem isAssignment_of_isAlphanum {c : Char} (h : c.isAlphanum = true) : isAssignment c = false := by
  refine Bool.eq_false_iff.mpr fun assigns => ?_
  by_cases blank : isBlank c = true
  · have isValue := isValueChar_of_isAlphanum h
    simp [Redaction.isValueChar, blank] at isValue
  · simp only [isAssignment, blank, Bool.false_or, Bool.or_eq_true, beq_iff_eq] at assigns
    rcases assigns with rfl | rfl <;> cases h

/-- A value without blanks before it is masked with the name of its field. -/
theorem isValueChar_of_plain (assigns : ∀ c ∈ separators, isAssignment c = true)
    (unbroken : ∀ c ∈ separators, isBlank c = false) (plain : Plain value) :
    ∀ c ∈ separators ++ value.toList, Redaction.isValueChar c = true :=
  List.forall_mem_append.mpr
    ⟨fun c mem => isValueChar_of_isAssignment (assigns c mem) (unbroken c mem), plain.isValueChar⟩

theorem Known.suffix_of_apply {s : List Char} (known : Known rule v) (mem : name ∈ sensitiveFields)
    (named : name.toList <:+ rule.apply s) : name.toList <:+ s :=
  (Rule.rewrites_applyFrom known.positive none s).suffix known.ends
    (fun bracket => letters_of_field name mem ']' bracket (by decide)) named

theorem suffix_of_foldl {rules : List Rule} {s : List Char} (mem : name ∈ sensitiveFields)
    (known : ∀ rule ∈ rules, ∃ v, Known rule v)
    (named : name.toList <:+ rules.foldl (fun s rule => rule.apply s) s) : name.toList <:+ s := by
  induction rules generalizing s with
  | nil => exact named
  | cons rule rules ih =>
    obtain ⟨⟨v, isKnown⟩, others⟩ := List.forall_mem_cons.mp known
    exact isKnown.suffix_of_apply mem (ih others named)

/-- A rule of other keywords keeps the value given to a field, or takes it with the name. -/
theorem Known.apply_assignment (known : Known rule v) (other : v ≠ .field name)
    (mem : name ∈ sensitiveFields) (something : separators ≠ [])
    (assigns : ∀ c ∈ separators, isAssignment c = true) (ended : Ended none front)
    (stop : ∀ c ∈ back.head?, isValueChar c = false) :
    (∃ front', Ended none front' ∧ rule.apply (front ++ name.toList) = front' ++ name.toList ∧
        ∀ value, Plain value → rule.apply (front ++ (assignment name separators value ++ back)) =
          front' ++ (assignment name separators value ++ rule.apply back)) ∨
      ¬ name.toList <:+ rule.apply (front ++ name.toList) ∧ (v = .bearer ∨
        ((∀ c ∈ separators, isBlank c = false) → ∃ out, ∀ value, Plain value →
          rule.apply (front ++ (assignment name separators value ++ back)) = out)) := by
  rcases known.apply_name mem ended with ⟨front', ended', kept, rewritten⟩ | ⟨lost, taken⟩
  · refine Or.inl ⟨front', ended', kept, fun value plain => ?_⟩
    obtain ⟨_, _, m⟩ := known.masking
    obtain ⟨word, isReserved, begins, different⟩ := known.begins
    have otherWord : word ≠ name := by
      rintro rfl
      exact different.elim (fun absent => absent mem) other
    have absent := absent_assignment mem isReserved otherWord something assigns plain
    have silent : rule.silentOver front.getLast? (assignment name separators value) back = true :=
      m.silent_of_absent begins (letters_of_reserved word isReserved).2 absent
        fun c first => key_of_stop (stop c first)
    have silently := Rule.applyFrom_of_silent silent
    rw [m.applyFrom_stop (Vocabulary.distinct v known.mem_all) stop] at silently
    rw [← silently]
    have whole := rewritten (separators ++ value.toList ++ back)
    rwa [← List.append_assoc name.toList] at whole
  · refine Or.inr ⟨lost, taken.imp_right ?_⟩
    rintro ⟨out, masked⟩ unbroken
    refine ⟨out ++ rule.apply back, fun value plain => ?_⟩
    have whole := masked (separators ++ value.toList) back
      (isValueChar_of_plain assigns unbroken plain) stop
    rwa [← List.append_assoc name.toList] at whole

/-- Rules of other keywords keep the value given to a field, or one of them takes it. -/
theorem foldl_assignment {rules : List Rule} (mem : name ∈ sensitiveFields)
    (known : ∀ rule ∈ rules, ∃ v, Known rule v ∧ v ≠ .bearer ∧ v ≠ .field name)
    (something : separators ≠ []) (assigns : ∀ c ∈ separators, isAssignment c = true)
    (ended : Ended none front) (stop : ∀ c ∈ back.head?, isValueChar c = false)
    (named : name.toList <:+ rules.foldl (fun s rule => rule.apply s) (front ++ name.toList) ∨
      ∀ c ∈ separators, isBlank c = false) :
    (∃ front' back', Ended none front' ∧ (∀ c ∈ back'.head?, isValueChar c = false) ∧
        rules.foldl (fun s rule => rule.apply s) (front ++ name.toList) = front' ++ name.toList ∧
        ∀ value, Plain value →
          rules.foldl (fun s rule => rule.apply s)
              (front ++ (assignment name separators value ++ back)) =
            front' ++ (assignment name separators value ++ back')) ∨
      ∃ out, ∀ value, Plain value →
        rules.foldl (fun s rule => rule.apply s)
          (front ++ (assignment name separators value ++ back)) = out := by
  -- What one rule keeps goes on to the next; what it takes is one text for all values.
  induction rules generalizing front back with
  | nil => exact Or.inl ⟨front, back, ended, stop, rfl, fun _ _ => rfl⟩
  | cons rule rules ih =>
    obtain ⟨⟨v, isKnown, noBearer, other⟩, others⟩ := List.forall_mem_cons.mp known
    simp only [List.foldl_cons] at named ⊢
    rcases isKnown.apply_assignment other mem something assigns ended stop with
      ⟨front', ended', kept, rewritten⟩ | ⟨lost, taken⟩
    · rw [kept] at named ⊢
      rcases ih others ended' (isKnown.stop_apply stop) named with
        ⟨front'', back'', ended'', stop'', kept', rewritten'⟩ | ⟨out, masked⟩
      · refine Or.inl ⟨front'', back'', ended'', stop'', kept', fun value plain => ?_⟩
        rw [rewritten value plain, rewritten' value plain]
      · refine Or.inr ⟨out, fun value plain => ?_⟩
        rw [rewritten value plain, masked value plain]
    · have unbroken : ∀ c ∈ separators, isBlank c = false := by
        refine named.resolve_left fun named => lost ?_
        refine suffix_of_foldl mem (fun rule found => ?_) named
        obtain ⟨w, isKnown, _⟩ := others rule found
        exact ⟨w, isKnown⟩
      obtain ⟨out, masked⟩ := taken.resolve_left noBearer unbroken
      refine Or.inr ⟨rules.foldl (fun s rule => rule.apply s) out, fun value plain => ?_⟩
      rw [masked value plain]

theorem trigger_field (mem : name ∈ sensitiveFields) : (fieldRule name).Trigger name.toList := by
  have small : ∀ name ∈ sensitiveFields, name.toList.map Char.toLower = name.toList := by
    decide
  exact ⟨word name, List.mem_singleton_self _, takes_word (small name mem)⟩

/-- The rule of a field masks the value given to the field. -/
theorem apply_field_assignment (mem : name ∈ sensitiveFields) (something : separators ≠ [])
    (assigns : ∀ c ∈ separators, isAssignment c = true) (ended : Ended none front)
    (stop : ∀ c ∈ back.head?, isValueChar c = false)
    (named : name.toList <:+ (fieldRule name).apply (front ++ name.toList) ∨
      ∀ c ∈ separators, isBlank c = false) :
    ∃ out, ∀ value, Plain value →
      (fieldRule name).apply (front ++ (assignment name separators value ++ back)) = out := by
  have known := Known.field mem
  have m := masking_field mem
  have distinct := Vocabulary.distinct _ known.mem_all
  rcases known.apply_name mem ended with ⟨front', _, _, rewritten⟩ | ⟨lost, taken⟩
  · refine ⟨front' ++ ((fieldRule name).replacement name.toList ++ (fieldRule name).apply back),
      fun value plain => ?_⟩
    have allowed : front.getLast?.all (fieldRule name).after = true := by
      rw [Option.all_eq_true]
      intro c mem
      have noWord : isWord c = false := ended c (by rw [Option.or_none]; exact mem)
      exact (congrArg Bool.not noWord : (!isWord c) = true)
    have outside : ∀ c ∈ value.toList, isAssignment c = false :=
      fun c mem => isAssignment_of_isAlphanum (plain.isAlphanum c mem)
    have masked := m.applyFrom_value (scanning_of_value rfl) distinct allowed (trigger_field mem)
      something assigns plain.toList_ne_nil outside plain.isValueChar stop
    have parts := rewritten (separators ++ (value.toList ++ back))
    rw [masked] at parts
    rw [assignment, List.append_assoc, List.append_assoc]
    exact parts
  · obtain ⟨out, masked⟩ := taken.resolve_left (field_ne_header name mem).1
    refine ⟨out ++ (fieldRule name).apply back, fun value plain => ?_⟩
    have whole := masked (separators ++ value.toList) back
      (isValueChar_of_plain assigns (named.resolve_left lost) plain) stop
    rwa [← List.append_assoc name.toList] at whole

end Assignment

/-- Whether the rule of a field, when its turn comes, finds the name of the field behind a text: the
name outlasts the rules before it and its own, or else what takes the name takes the value with it. -/
def Reached (earlier : List String) (field front separators : String) : Prop :=
  field.toList <:+ (redactWith (earlier ++ [field]) (front ++ field)).toList ∨
    (∀ c ∈ separators.toList, isBlank c = false) ∧
      field.toList <:+ bearerRule.apply (front ++ field).toList

instance (earlier : List String) (field front separators : String) :
    Decidable (Reached earlier field front separators) :=
  decidable_of_iff (field.toList <:+ (redactWith (earlier ++ [field]) (front ++ field)).toList ∨
    separators.toList.all (fun c => !isBlank c) = true ∧
      field.toList <:+ bearerRule.apply (front ++ field).toList) (by simp [Reached])

section Influence

variable {earlier later : List String} {field front separators back : String}

theorem known_of_earlier (order : (earlier ++ field :: later).Perm sensitiveFields) :
    ∀ rule ∈ laterRules earlier, ∃ v, Known rule v ∧ v ≠ .bearer ∧ v ≠ .field field := by
  obtain ⟨mem, others⟩ := others_of_order order
  have sensitive : ∀ name ∈ earlier, name ∈ sensitiveFields :=
    fun name visited => (others name (List.mem_append_left _ visited)).1
  have unvisited : field ∉ earlier :=
    fun visited => (others field (List.mem_append_left _ visited)).2 rfl
  intro rule found
  obtain ⟨v, isKnown, _, noBearer, other⟩ := known_of_mem sensitive rule found
  exact ⟨v, isKnown, noBearer, other field mem unvisited⟩

/-- Up to its own rule, the text with a plain value is rewritten without regard to the value. -/
theorem foldl_of_reached (order : (earlier ++ field :: later).Perm sensitiveFields)
    (ended : Ended none front.toList) (something : separators ≠ "")
    (assigns : ∀ c ∈ separators.toList, isAssignment c = true)
    (stop : ∀ c ∈ back.toList.head?, isValueChar c = false)
    (reached : Reached earlier field front separators) :
    ∃ out, ∀ value, Plain value →
      (fieldRule field).apply ((laterRules earlier).foldl (fun s rule => rule.apply s)
        (bearerRule.apply (front ++ field ++ separators ++ value ++ back).toList)) = out := by
  have mem := (others_of_order order).1
  have known := known_of_earlier order
  have known' : ∀ rule ∈ laterRules earlier, ∃ v, Known rule v := by
    intro rule found
    obtain ⟨v, isKnown, _⟩ := known rule found
    exact ⟨v, isKnown⟩
  have text : ∀ value, (front ++ field ++ separators ++ value ++ back).toList =
      front.toList ++ (assignment field separators.toList value ++ back.toList) := by
    intro value
    simp [assignment]
  have something' : separators.toList ≠ [] :=
    fun empty => something (String.toList_eq_nil_iff.mp empty)
  have rules : laterRules (earlier ++ [field]) = laterRules earlier ++ [fieldRule field] := by
    simp [laterRules]
  rw [Reached, toList_redactWith, String.toList_append, rules, List.foldl_append] at reached
  have named : field.toList <:+ bearerRule.apply (front.toList ++ field.toList) := by
    rcases reached with named | ⟨_, named⟩
    · exact suffix_of_foldl mem known' ((Known.field mem).suffix_of_apply mem named)
    · exact named
  -- The rule of tokens stands apart: what it takes may end before the value.
  rcases Known.bearer.apply_assignment (field_ne_header field mem).1.symm mem something' assigns ended
    stop with ⟨front₁, ended₁, kept, rewritten⟩ | ⟨lost, _⟩
  case inr => exact absurd named lost
  rw [kept] at reached
  have named₁ : field.toList <:+
      (laterRules earlier).foldl (fun s rule => rule.apply s) (front₁ ++ field.toList) ∨
        ∀ c ∈ separators.toList, isBlank c = false :=
    reached.imp ((Known.field mem).suffix_of_apply mem) And.left
  have stop₁ := Known.bearer.stop_apply stop
  rcases foldl_assignment mem known something' assigns ended₁ stop₁ named₁ with
    ⟨front₂, back₂, ended₂, stop₂, kept₂, rewritten₂⟩ | ⟨out, masked⟩
  · rw [kept₂] at reached
    obtain ⟨out, masked⟩ :=
      apply_field_assignment mem something' assigns ended₂ stop₂ (reached.imp_right And.left)
    refine ⟨out, fun value plain => ?_⟩
    rw [text, rewritten value plain, rewritten₂ value plain, masked value plain]
  · refine ⟨(fieldRule field).apply out, fun value plain => ?_⟩
    rw [text, rewritten value plain, masked value plain]

/-- The value of a field has no influence on the redacted text, if the rule of the field finds the
name of the field. -/
theorem value_without_influence (order : (earlier ++ field :: later).Perm sensitiveFields)
    {value₁ value₂ : String} (ended : Ended none front.toList) (something : separators ≠ "")
    (assigns : ∀ c ∈ separators.toList, isAssignment c = true)
    (stop : ∀ c ∈ back.toList.head?, isValueChar c = false) (plain₁ : Plain value₁)
    (plain₂ : Plain value₂) (reached : Reached earlier field front separators) :
    redactWith (earlier ++ field :: later) (front ++ field ++ separators ++ value₁ ++ back) =
      redactWith (earlier ++ field :: later) (front ++ field ++ separators ++ value₂ ++ back) := by
  obtain ⟨out, masked⟩ := foldl_of_reached order ended something assigns stop reached
  have rules : laterRules (earlier ++ field :: later) =
      laterRules earlier ++ fieldRule field :: later.map fieldRule := by
    simp [laterRules]
  refine String.toList_inj.mp ?_
  rw [toList_redactWith, toList_redactWith, rules, List.foldl_append, List.foldl_append,
    List.foldl_cons, List.foldl_cons, masked value₁ plain₁, masked value₂ plain₂]

theorem value_without_influence_reported :
    redactWith (["secret", "token"] ++ "password" :: ["credentials"])
        ("client-key-data: LS0t; login failed: " ++ "password" ++ " = " ++ "hunter2" ++
          ", bearer abc") =
      redactWith (["secret", "token"] ++ "password" :: ["credentials"])
        ("client-key-data: LS0t; login failed: " ++ "password" ++ " = " ++ "0000" ++
          ", bearer abc") := by
  have plain₁ : Plain "hunter2" := ⟨by decide, by decide +kernel, by decide +kernel⟩
  have plain₂ : Plain "0000" := ⟨by decide, by decide +kernel, by decide +kernel⟩
  have assigns : " = ".toList.all isAssignment = true := by decide
  have stop : isValueChar ',' = false := by decide
  refine value_without_influence (by decide) (by decide +kernel) (by decide)
    (List.all_eq_true.mp assigns) ?_ plain₁ plain₂ (by decide +kernel)
  rintro _ ⟨⟩
  exact stop

open TokenFirst in
/-- A token that is masked may be the name of a field, whose value is then left in the open. -/
theorem value_behind_token :
    Ended none "bearer ".toList ∧ "password" ∈ sensitiveFields ∧ isAssignment '=' = true ∧
    Plain "abc" ∧ Plain "xyz" ∧
    redact ("bearer " ++ "password" ++ "=" ++ "abc" ++ "") ≠
      redact ("bearer " ++ "password" ++ "=" ++ "xyz" ++ "") :=
  ⟨by decide +kernel, by decide, by decide, ⟨by decide, by decide +kernel, by decide +kernel⟩,
    ⟨by decide, by decide +kernel, by decide +kernel⟩, by decide +kernel⟩

end Influence

end StorageController.Redaction
