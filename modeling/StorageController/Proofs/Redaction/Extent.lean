import StorageController.Proofs.Redaction.Idempotence

namespace StorageController.Redaction

open Text

section Match

variable {rule : Rule} {v : Vocabulary} {separator value : Char → Bool} {before : Option Char}
  {skip : List Char → List Char} {s t t' rest more middle : List Char}

/-- Only one keyword of a rule begins a text. -/
theorem Masking.trigger_unique (m : Masking rule v separator value) (distinct : v.Distinct)
    (trigger : rule.Trigger t) (trigger' : rule.Trigger t') (eq : t ++ rest = t' ++ more) :
    t = t' := by
  have shorter : ∀ {t t' : List Char}, rule.Trigger t → rule.Trigger t' → t <+: t' → t = t' := by
    intro t t' trigger trigger' isPrefix
    have reaches : Meets (t.map key) (v.masked (t'.map key)) :=
      Or.inl ((isPrefix.map key).trans (List.prefix_append _ _))
    have keys := (distinct _ (m.word t trigger)).2 _ (m.word t' trigger') reaches
    have lengths := congrArg List.length keys
    rw [List.length_map, List.length_map] at lengths
    exact isPrefix.eq_of_length lengths
  rcases List.prefix_or_prefix_of_prefix (List.prefix_append t rest)
    (eq ▸ List.prefix_append t' more) with isPrefix | isPrefix
  · exact shorter trigger trigger' isPrefix
  · exact (shorter trigger' trigger isPrefix).symm

/-- Where a keyword stands, a match is as long as its tail. -/
theorem Masking.matchAt_eq (m : Masking rule v separator value) (distinct : v.Distinct)
    (allowed : before.all rule.after = true) (trigger : rule.Trigger t) :
    rule.matchAt before (t ++ middle) = (rule.tail.run some middle).map
      fun rest => ((t ++ middle).length - rest.length, rule.replacement t) := by
  have sound : ∀ found, rule.matchAt before (t ++ middle) = some found →
      (rule.tail.run some middle).map
        (fun rest => ((t ++ middle).length - rest.length, rule.replacement t)) = some found := by
    rintro ⟨taken, replacement⟩ matched
    obtain ⟨_, t', middle', eq, trigger', rfl, h⟩ := Rule.matchAt_sound matched
    obtain rfl := m.trigger_unique distinct trigger trigger' eq
    obtain rfl := List.append_cancel_left eq
    rw [← h, ← Pattern.run_map]
    rfl
  cases found : rule.matchAt before (t ++ middle) with
  | some _ => exact (sound _ found).symm
  | none =>
    cases run : rule.tail.run some middle with
    | none => rfl
    | some rest =>
      obtain ⟨front, back, rfl, takes, _⟩ := Pattern.run_sound run
      have matched : (rule.matchAt before (t ++ (front ++ back))).isSome :=
        Rule.matchAt_complete allowed trigger takes
      rw [found] at matched
      cases matched

theorem Masking.matchAt_of_rest {taken : List Char} (m : Masking rule v separator value)
    (distinct : v.Distinct) (allowed : before.all rule.after = true) (trigger : rule.Trigger t)
    (found : rule.tail.run some middle = some rest) (eq : t ++ middle = taken ++ rest) :
    rule.matchAt before (taken ++ rest) = some (taken.length, rule.replacement t) := by
  have length : (taken ++ rest).length - rest.length = taken.length := by
    rw [List.length_append, Nat.add_sub_cancel]
  rw [← eq, m.matchAt_eq distinct allowed trigger, found, Option.map_some, eq, length]

/-- A match taken apart: a keyword, and what its tail takes. -/
theorem Rule.rest_of_matchAt {taken replacement : List Char}
    (matched : rule.matchAt before (taken ++ rest) = some (taken.length, replacement)) :
    before.all rule.after = true ∧ ∃ t middle, taken = t ++ middle ∧ rule.Trigger t ∧
      replacement = rule.replacement t ∧ rule.tail.run some (middle ++ rest) = some rest := by
  obtain ⟨allowed, t, middle, eq, trigger, rfl, run⟩ := Rule.matchAt_sound matched
  have mapped : (rule.tail.run some middle).map
      (fun back => ((taken ++ rest).length - back.length, rule.replacement t)) =
        some (taken.length, rule.replacement t) := by
    rw [← Pattern.run_map]
    exact run
  obtain ⟨back, found, lengths⟩ := Option.map_eq_some_iff.mp mapped
  obtain ⟨front, _, rfl, _, same⟩ := Pattern.run_sound found
  obtain rfl := Option.some.inj same
  have length : taken.length = (t ++ front).length := by
    have total := congrArg List.length eq
    have taken := (Prod.mk.inj lengths).1
    simp only [List.length_append] at total taken ⊢
    omega
  rw [← List.append_assoc] at eq
  obtain ⟨rfl, rfl⟩ := List.append_inj eq length
  exact ⟨allowed, t, front, rfl, trigger, rfl, found⟩

theorem Rule.Bounded.stop {taken replacement : List Char} (bounded : rule.Bounded)
    (something : taken ≠ [])
    (matched : rule.matchAt before (taken ++ rest) = some (taken.length, replacement)) :
    ∀ c ∈ rest.head?, isValueChar c = false := by
  obtain ⟨front, last, rfl⟩ : ∃ front last, taken = front ++ [last] :=
    ⟨_, _, (List.dropLast_concat_getLast something).symm⟩
  rw [List.append_assoc, List.length_append] at matched
  exact bounded before front last rest replacement matched

/-- What a rule takes after the separators: a character of a value, and as much more as `skip` leaves
out. -/
def valueRest (value : Char → Bool) (skip : List Char → List Char) : List Char → Option (List Char)
  | [] => none
  | first :: rest => if value first then some (skip rest) else none

/-- A rule with the reader of its values: a value goes on over letters, it ends where every value ends,
and if it ends before a letter, it does so whatever the letter is and whatever follows. -/
structure Scanning (rule : Rule) (separator value : Char → Bool) (skip : List Char → List Char) :
    Prop where
  run : ∀ s, rule.tail.run some s = (Piece.some separator).run (valueRest value skip) s
  suffix : ∀ s, skip s <:+ s
  stop : ∀ front rest, (∀ c ∈ front, value c = true) →
    (∀ c ∈ rest.head?, isValueChar c = false) → skip (front ++ rest) = rest
  append : ∀ front,
    (∃ back, ∀ c rest, key c ≠ ' ' → skip (front ++ c :: rest) = back ++ c :: rest) ∨
      ∀ c rest, key c ≠ ' ' → skip (front ++ c :: rest) = skip rest

theorem dropWhile_of_head {p : Char → Bool} {rest : List Char}
    (stop : ∀ c ∈ rest.head?, p c = false) : rest.dropWhile p = rest := by
  cases rest with
  | nil => rfl
  | cons c rest =>
    rw [List.dropWhile_cons, stop c rfl]
    rfl

theorem dropWhile_stop {p : Char → Bool} {front rest : List Char} (all : ∀ c ∈ front, p c = true)
    (stop : ∀ c ∈ rest.head?, p c = false) : (front ++ rest).dropWhile p = rest := by
  rw [List.dropWhile_append_of_pos all, dropWhile_of_head stop]

theorem dropWhile_letter {p : Char → Bool} (letters : ∀ c, key c ≠ ' ' → p c = true)
    (front : List Char) :
    (∃ c back, ∀ rest, (front ++ rest).dropWhile p = c :: back ++ rest) ∨
      ∀ c rest, key c ≠ ' ' → (front ++ c :: rest).dropWhile p = rest.dropWhile p := by
  cases dropped : front.dropWhile p with
  | cons c back =>
    refine Or.inl ⟨c, back, fun rest => ?_⟩
    rw [List.dropWhile_append, dropped]
    rfl
  | nil =>
    refine Or.inr fun c rest isLetter => ?_
    rw [List.dropWhile_append, dropped, List.isEmpty_nil, if_pos rfl, List.dropWhile_cons,
      if_pos (letters c isLetter)]

theorem scanning_of_value (tail : rule.tail = [.some separator, .some isValueChar]) :
    Scanning rule separator isValueChar (List.dropWhile isValueChar) where
  run := by
    intro s
    have goesOn : Pattern.run [.some isValueChar] some =
        valueRest isValueChar (List.dropWhile isValueChar) := by
      funext s
      cases s with
      | nil => rfl
      | cons first rest =>
        simp only [Pattern.run, Piece.run, valueRest]
        rw [tryMany_greedy fun _ => rfl]
    rw [tail, Pattern.run, goesOn]
  suffix := fun _ => List.dropWhile_suffix _
  stop := fun _ _ => dropWhile_stop
  append := by
    intro front
    rcases dropWhile_letter (fun _ => isValueChar_of_key) front with ⟨c, back, h⟩ | h
    · exact Or.inl ⟨c :: back, fun c rest _ => h (c :: rest)⟩
    · exact Or.inr h

/-- The rest of a text after a token and the padding behind it. -/
def afterToken (s : List Char) : List Char :=
  (s.dropWhile isTokenChar).dropWhile (· == '=')

theorem scanning_bearer : Scanning bearerRule isBlank isTokenChar afterToken where
  run := by
    intro s
    have goesOn : Pattern.run [.some isTokenChar, .many (· == '=')] some =
        valueRest isTokenChar afterToken := by
      funext s
      cases s with
      | nil => rfl
      | cons first rest =>
        have padding : ∀ s, tryMany (· == '=') some s = some (s.dropWhile (· == '=')) :=
          fun s => tryMany_greedy fun _ => rfl
        simp only [Pattern.run, Piece.run, valueRest]
        rw [tryMany_greedy fun s => by rw [padding]; rfl, padding]
        rfl
    exact congrArg (fun next => (Piece.some isBlank).run next s) goesOn
  suffix := fun s => (List.dropWhile_suffix _).trans (List.dropWhile_suffix _)
  stop := by
    intro front rest all stop
    have stops : ∀ c ∈ rest.head?, isTokenChar c = false := by
      intro c mem
      refine Bool.eq_false_iff.mpr fun token => ?_
      have isValue := isValueChar_of_isTokenChar token
      rw [stop c mem] at isValue
      cases isValue
    have unpadded : ∀ c ∈ rest.head?, (c == '=') = false := by
      intro c mem
      refine beq_eq_false_iff_ne.mpr ?_
      rintro rfl
      cases stop _ mem
    rw [afterToken, dropWhile_stop all stops, dropWhile_of_head unpadded]
  append := by
    intro front
    rcases dropWhile_letter (fun _ => isTokenChar_of_key) front with ⟨d, back, h⟩ | h
    · refine Or.inl ⟨(d :: back).dropWhile (· == '='), fun c rest isLetter => ?_⟩
      have unpadded : (c :: rest).dropWhile (· == '=') = c :: rest := by
        refine dropWhile_of_head ?_
        rintro _ ⟨⟩
        refine beq_eq_false_iff_ne.mpr ?_
        rintro rfl
        exact isLetter rfl
      rw [afterToken, h, List.dropWhile_append]
      split
      next empty => rw [unpadded, List.isEmpty_iff.mp empty, List.nil_append]
      next => rfl
    · refine Or.inr fun c rest isLetter => ?_
      rw [afterToken, h c rest isLetter]
      rfl

theorem Scanning.run_separated {between : List Char} {first : Char}
    (scan : Scanning rule separator value skip) (something : between ≠ [])
    (separators : ∀ c ∈ between, separator c = true) (outside : separator first = false)
    (isValue : value first = true) :
    rule.tail.run some (between ++ first :: rest) = some (skip rest) := by
  obtain ⟨c, between, rfl⟩ := List.exists_cons_of_ne_nil something
  obtain ⟨isSeparator, others⟩ := List.forall_mem_cons.mp separators
  have dropped : (between ++ first :: rest).dropWhile separator = first :: rest :=
    dropWhile_stop others (by rintro _ ⟨⟩; exact outside)
  have read : valueRest value skip (first :: rest) = some (skip rest) := by
    rw [valueRest, if_pos isValue]
  have goesOn : (valueRest value skip ((between ++ first :: rest).dropWhile separator)).isSome := by
    rw [dropped, read]
    rfl
  rw [scan.run, List.cons_append, Piece.run, if_pos isSeparator, tryMany_dropWhile goesOn, dropped,
    read]

/-- From a letter on it does not matter to a match what the text is: it has failed, or ended before, or
takes what a value takes. -/
theorem Scanning.run_letter (scan : Scanning rule separator value skip)
    (m : Masking rule v separator value) (middle : List Char) :
    (∀ c rest, key c ≠ ' ' → rule.tail.run some (middle ++ c :: rest) = none) ∨
      (∃ front back, middle = front ++ back ∧ ∀ c rest, key c ≠ ' ' →
        rule.tail.run some (middle ++ c :: rest) = some (back ++ c :: rest)) ∨
      ∀ c rest, key c ≠ ' ' → rule.tail.run some (middle ++ c :: rest) = some (skip rest) := by
  let goesOn : List Char → Bool := fun back => back.head?.all value
  have run : ∀ c rest, key c ≠ ' ' → rule.tail.run some (middle ++ c :: rest) =
      ((Piece.some separator).run (Option.guard goesOn) middle).bind
        fun back => valueRest value skip (back ++ c :: rest) := by
    intro c rest isLetter
    have noSeparator : separator c = false :=
      Bool.eq_false_iff.mpr fun isSeparator => isLetter (m.separator_key c isSeparator)
    rw [scan.run, Piece.run_append (by rintro _ ⟨⟩; exact noSeparator)]
    refine run_some_guard fun back => ?_
    cases back with
    | nil => simp [valueRest, goesOn, m.value_key c isLetter]
    | cons d back => cases isValue : value d <;> simp [valueRest, goesOn, isValue]
  cases found : (Piece.some separator).run (Option.guard goesOn) middle with
  | none => exact Or.inl fun c rest isLetter => by rw [run c rest isLetter, found]; rfl
  | some back =>
    refine Or.inr ?_
    cases back with
    | nil =>
      refine Or.inr fun c rest isLetter => ?_
      rw [run c rest isLetter, found, Option.bind_some, List.nil_append, valueRest,
        if_pos (m.value_key c isLetter)]
    | cons d back =>
      obtain ⟨_, _, _, _, guarded⟩ := piece_sound found
      obtain ⟨rfl, isValue⟩ := Option.guard_eq_some_iff.mp guarded
      have reached : ∀ c rest, key c ≠ ' ' →
          rule.tail.run some (middle ++ c :: rest) = some (skip (back ++ c :: rest)) := by
        intro c rest isLetter
        have isValue : value d = true := isValue
        rw [run c rest isLetter, found, Option.bind_some, List.cons_append, valueRest,
          if_pos isValue]
      rcases scan.append back with ⟨left, ends⟩ | goesOn
      · have found : ∀ c rest, key c ≠ ' ' →
            rule.tail.run some (middle ++ c :: rest) = some (left ++ c :: rest) := by
          intro c rest isLetter
          rw [reached c rest isLetter, ends c rest isLetter]
        obtain ⟨front, _, eq, _, same⟩ := Pattern.run_sound (found 'a' [] (by decide))
        obtain rfl := Option.some.inj same
        rw [← List.append_assoc, List.append_left_inj] at eq
        exact Or.inl ⟨front, left, eq, found⟩
      · exact Or.inr fun c rest isLetter => by rw [reached c rest isLetter, goesOn c rest isLetter]

/-- A match stays as it is when the text behind it is rewritten. -/
theorem Masking.matchAt_of_rewrites {other : Rule} {w : Vocabulary}
    {separator' value' : Char → Bool} {before' : Option Char} {taken replacement out : List Char}
    (m : Masking rule v separator value) (scan : Scanning rule separator value skip)
    (distinct : v.Distinct) (m' : Masking other w separator' value') (distinct' : w.Distinct)
    (h : other.Rewrites before' rest out)
    (matched : rule.matchAt before (taken ++ rest) = some (taken.length, replacement)) :
    rule.matchAt before (taken ++ out) = some (taken.length, replacement) := by
  rcases h.split with rfl | ⟨kept, t', more, out', trigger', rfl, rfl⟩
  · exact matched
  · obtain ⟨allowed, t, middle, rfl, trigger, rfl, run⟩ := Rule.rest_of_matchAt matched
    obtain ⟨c, others, rfl, isLetter⟩ := m'.letter distinct' trigger'
    obtain ⟨d, others', masked, isLetter'⟩ := m'.masked_letter distinct' trigger'
    rw [masked]
    rw [← List.append_assoc, List.cons_append] at run
    rcases scan.run_letter m (middle ++ kept) with fails | ⟨front, back, _, ends⟩ | goesOn
    · rw [fails c _ isLetter] at run
      cases run
    · rw [ends c _ isLetter] at run
      obtain rfl : back = kept := List.append_cancel_right (Option.some.inj run)
      have found := ends d (others' ++ out') isLetter'
      rw [List.append_assoc] at found
      exact m.matchAt_of_rest distinct allowed trigger found (by simp)
    · -- A match that takes the letter would leave less of the text.
      rw [goesOn c _ isLetter] at run
      have shorter := (scan.suffix (others ++ more)).length_le
      rw [Option.some.inj run] at shorter
      simp only [List.length_append, List.length_cons] at shorter
      omega

/-- A text that begins with a letter, and where no keyword goes on that was begun before a blank. -/
structure Fresh (v : Vocabulary) (s : List Char) : Prop where
  letter : ∃ c rest, s = c :: rest ∧ key c ≠ ' '
  unreached : ∀ word ∈ v.words, ∀ front back, word = front ++ ' ' :: back → ¬ Meets back (s.map key)

/-- What a rule does at the beginning of a text, for everything that may follow the text. -/
inductive Extent (rule : Rule) (v : Vocabulary) (skip : List Char → List Char)
    (before : Option Char) (s : List Char) : Prop
  | free (unmatched : ∀ rest, Fresh v rest → rule.matchAt before (s ++ rest) = none) :
      Extent rule v skip before s
  | inside {taken back t : List Char} (eq : s = taken ++ back) (something : taken ≠ [])
      (trigger : rule.Trigger t) (matched : ∀ rest, Fresh v rest →
        rule.matchAt before (taken ++ (back ++ rest)) = some (taken.length, rule.replacement t)) :
      Extent rule v skip before s
  | across {t : List Char} (trigger : rule.Trigger t) (matched : ∀ c rest, Fresh v (c :: rest) →
        ∃ taken, s ++ c :: rest = taken ++ skip rest ∧ taken ≠ [] ∧
          rule.matchAt before (taken ++ skip rest) = some (taken.length, rule.replacement t)) :
      Extent rule v skip before s

/-- No keyword goes from a text into fresh text behind it. -/
theorem Masking.unmatched_of_fresh (m : Masking rule v separator value) (nonempty : s ≠ [])
    (blank : ∀ c ∈ s.getLast?, key c = ' ')
    (unbegun : ¬ ∃ t middle, s = t ++ middle ∧ rule.Trigger t) (fresh : Fresh v rest) :
    rule.matchAt before (s ++ rest) = none := by
  rw [Option.eq_none_iff_forall_ne_some]
  rintro ⟨taken, replacement⟩ matched
  obtain ⟨_, t, middle, eq, trigger, _⟩ := Rule.matchAt_sound matched
  rcases List.append_eq_append_iff.mp eq with ⟨reached, rfl, follows⟩ | ⟨middle', rfl, _⟩
  · -- The keyword would go on after the last character of the text, which is read as a blank.
    obtain ⟨front, last, rfl⟩ : ∃ front last, s = front ++ [last] :=
      ⟨_, _, (List.dropLast_concat_getLast nonempty).symm⟩
    have spelled := m.word _ trigger
    rw [List.map_append, List.map_append, List.map_singleton, blank last (by simp),
      List.append_assoc] at spelled
    refine fresh.unreached _ spelled _ _ rfl ?_
    exact meets_of_prefix ⟨middle, follows.symm⟩ List.prefix_rfl
  · exact unbegun ⟨t, middle', rfl, trigger⟩

theorem Masking.extent_of_trigger (m : Masking rule v separator value)
    (scan : Scanning rule separator value skip) (distinct : v.Distinct)
    (allowed : before.all rule.after = true) (trigger : rule.Trigger t) (middle : List Char) :
    Extent rule v skip before (t ++ middle) := by
  rcases scan.run_letter m middle with fails | ⟨front, back, rfl, ends⟩ | goesOn
  · refine .free fun rest fresh => ?_
    obtain ⟨c, rest, rfl, isLetter⟩ := fresh.letter
    rw [List.append_assoc, m.matchAt_eq distinct allowed trigger, fails c rest isLetter]
    rfl
  · obtain ⟨d, others, keyword, _⟩ := m.letter distinct trigger
    refine .inside (List.append_assoc t front back).symm (by simp [keyword]) trigger
      fun rest fresh => ?_
    obtain ⟨c, rest, rfl, isLetter⟩ := fresh.letter
    exact m.matchAt_of_rest distinct allowed trigger (ends c rest isLetter) (by simp)
  · refine .across trigger fun c rest fresh => ?_
    obtain ⟨_, _, eq, isLetter⟩ := fresh.letter
    obtain ⟨rfl, rfl⟩ := List.cons.inj eq
    obtain ⟨more, eq⟩ := scan.suffix rest
    have whole : t ++ (middle ++ c :: rest) = t ++ (middle ++ c :: more) ++ skip rest := by
      rw [List.append_assoc, List.append_assoc, List.cons_append, eq]
    refine ⟨t ++ (middle ++ c :: more), by rw [List.append_assoc, whole], by simp, ?_⟩
    exact m.matchAt_of_rest distinct allowed trigger (goesOn c rest isLetter) whole

theorem Masking.extent (m : Masking rule v separator value)
    (scan : Scanning rule separator value skip) (distinct : v.Distinct) (nonempty : s ≠ [])
    (blank : ∀ c ∈ s.getLast?, key c = ' ') (before : Option Char) :
    Extent rule v skip before s := by
  by_cases allowed : before.all rule.after = true
  · by_cases begun : ∃ t middle, s = t ++ middle ∧ rule.Trigger t
    · obtain ⟨t, middle, rfl, trigger⟩ := begun
      exact m.extent_of_trigger scan distinct allowed trigger middle
    · exact .free fun rest fresh => m.unmatched_of_fresh nonempty blank begun fresh
  · exact .free fun rest _ => by rw [Rule.matchAt, if_neg allowed]

/-- The last character of a text, or the one before it, is no character of a word. -/
def Ended (before : Option Char) (s : List Char) : Prop :=
  ∀ c ∈ s.getLast?.or before, isWord c = false

instance (before : Option Char) (s : List Char) : Decidable (Ended before s) :=
  decidable_of_iff ((s.getLast?.or before).all fun c => !isWord c)
    (by simp [Ended, Option.all_eq_true])

/-- How a rule rewrites a text, for everything that may follow it: apart from what follows, or with a
match at its end that takes what follows as a value. -/
inductive Passage (rule : Rule) (v : Vocabulary) (skip : List Char → List Char)
    (before : Option Char) (s : List Char) : Prop
  | apart (s' : List Char) (ended : Ended before s → Ended before s')
      (rewritten : ∀ rest, Fresh v rest →
        rule.applyFrom before 0 (s ++ rest) = s' ++ rule.applyFrom (s.getLast?.or before) 0 rest) :
      Passage rule v skip before s
  | across (s' : List Char) {t : List Char} (trigger : rule.Trigger t)
      (rewritten : ∀ c rest, Fresh v (c :: rest) →
        ∃ last, rule.applyFrom before 0 (s ++ c :: rest) =
          s' ++ (rule.replacement t ++ rule.applyFrom (some last) 0 (skip rest))) :
      Passage rule v skip before s

/-- A part of a text that is rewritten on its own comes before what is made of the rest. -/
theorem Passage.prepend (front out : List Char) {back : List Char} {last last' : Char}
    (passage : Passage rule v skip (some last) back)
    (kept : last' = last ∨ isWord last' = false)
    (step : ∀ rest, Fresh v rest → rule.applyFrom before 0 (front ++ last :: back ++ rest) =
      out ++ last' :: rule.applyFrom (some last) 0 (back ++ rest)) :
    Passage rule v skip before (front ++ last :: back) := by
  rcases passage with ⟨back', ended, rewritten⟩ | ⟨back', trigger, rewritten⟩
  · refine .apart (out ++ last' :: back') ?_ fun rest fresh => ?_
    · rw [Ended, Ended, getLast?_append_or, getLast?_append_or]
      intro given
      have given' := ended given
      cases back' with
      | nil =>
        rintro _ ⟨⟩
        rcases kept with rfl | other
        · exact given' last' rfl
        · exact other
      | cons c back' =>
        rw [Ended, getLast?_cons_or] at given'
        rw [getLast?_cons_or]
        exact given'
    · rw [step rest fresh, rewritten rest fresh, getLast?_append_or, List.append_assoc]
      rfl
  · refine .across (out ++ last' :: back') trigger fun c rest fresh => ?_
    obtain ⟨last'', eq⟩ := rewritten c rest fresh
    exact ⟨last'', by rw [step _ fresh, eq, List.append_assoc]; rfl⟩

theorem Masking.passage (m : Masking rule v separator value)
    (scan : Scanning rule separator value skip) (distinct : v.Distinct)
    (ends : ∀ t, ∃ front, rule.replacement t = front ++ [']'])
    (blank : ∀ c ∈ s.getLast?, key c = ' ') (before : Option Char) :
    Passage rule v skip before s := by
  induction n : s.length using Nat.strongRecOn generalizing before s with
  | ind n ih =>
    subst n
    by_cases empty : s = []
    · subst empty
      exact .apart [] id fun _ _ => rfl
    have further : ∀ front last back, s = front ++ last :: back →
        Passage rule v skip (some last) back := by
      rintro front last back rfl
      refine ih back.length (by simp; omega) (fun c mem => blank c ?_) (some last) rfl
      have same : (front ++ last :: back).getLast?.or none = back.getLast?.or (some last) :=
        getLast?_append_or front last back
      rw [Option.or_none, Option.mem_def.mp mem] at same
      exact same
    cases m.extent scan distinct empty blank before with
    | free unmatched =>
      obtain ⟨c, rest, rfl⟩ := List.exists_cons_of_ne_nil empty
      exact (further [] c rest rfl).prepend [] [] (Or.inl rfl)
        fun z fresh => Rule.applyFrom_of_unmatched (unmatched z fresh)
    | @inside taken back t eq something trigger matched =>
      obtain ⟨front, last, rfl⟩ : ∃ front last, taken = front ++ [last] :=
        ⟨_, _, (List.dropLast_concat_getLast something).symm⟩
      rw [List.append_assoc] at eq
      subst eq
      obtain ⟨out, mask⟩ := ends t
      have noWord : isWord ']' = false := by decide
      refine (further front last back rfl).prepend front out (Or.inr noWord) fun z fresh => ?_
      have matched := matched z fresh
      rw [List.append_assoc, List.length_append] at matched
      rw [List.append_assoc]
      refine (Rule.applyFrom_of_matched matched).trans ?_
      rw [mask, List.append_assoc]
      rfl
    | across trigger matched =>
      refine .across [] trigger fun c rest fresh => ?_
      obtain ⟨taken, eq, something, matched⟩ := matched c rest fresh
      rw [eq]
      exact Rule.applyFrom_of_taken something matched

theorem Rule.silentOver_of_not_begins
    (h : ∀ front back, s = front ++ back → back ≠ [] → ¬ rule.Begins (back ++ rest)) :
    rule.silentOver before s rest = true := by
  induction s generalizing before with
  | nil => rfl
  | cons c s ih =>
    have further : rule.silentOver (some c) s rest = true :=
      ih fun front back eq => h (c :: front) back (by rw [eq, List.cons_append])
    have unmatched : rule.matchAt before (c :: (s ++ rest)) = none := by
      rw [Option.eq_none_iff_forall_ne_some]
      rintro ⟨taken, replacement⟩ matched
      exact h [] (c :: s) rfl (List.cons_ne_nil c s) (begins_of_matchAt matched).2
    rw [silentOver, unmatched, further]
    rfl

theorem Masking.applyFrom_stop (m : Masking rule v separator value) (distinct : v.Distinct)
    (stop : ∀ c ∈ s.head?, isValueChar c = false) (before : Option Char) :
    rule.applyFrom before 0 s = rule.apply s := by
  cases s with
  | nil => rfl
  | cons c s =>
    have unmatched : ∀ before, rule.matchAt before (c :: s) = none := by
      intro before
      rw [Option.eq_none_iff_forall_ne_some]
      rintro ⟨taken, replacement⟩ matched
      exact m.not_begins_of_blank distinct (fun d mem => key_of_stop (stop d mem))
        (Rule.begins_of_matchAt matched).2
    rw [Rule.apply, Rule.applyFrom_of_unmatched (unmatched before),
      Rule.applyFrom_of_unmatched (unmatched none)]

/-- A keyword, separators and a value give way to the masked keyword. -/
theorem Masking.applyFrom_value {between word : List Char} (m : Masking rule v separator value)
    (scan : Scanning rule separator value skip) (distinct : v.Distinct)
    (allowed : before.all rule.after = true) (trigger : rule.Trigger t) (something : between ≠ [])
    (separators : ∀ c ∈ between, separator c = true) (nonempty : word ≠ [])
    (outside : ∀ c ∈ word, separator c = false) (values : ∀ c ∈ word, value c = true)
    (stop : ∀ c ∈ rest.head?, isValueChar c = false) :
    rule.applyFrom before 0 (t ++ (between ++ (word ++ rest))) =
      rule.replacement t ++ rule.apply rest := by
  obtain ⟨first, others, rfl⟩ := List.exists_cons_of_ne_nil nonempty
  obtain ⟨isValue, areValues⟩ := List.forall_mem_cons.mp values
  have run : rule.tail.run some (between ++ (first :: others ++ rest)) = some rest := by
    rw [List.cons_append, scan.run_separated something separators (outside first List.mem_cons_self)
      isValue, scan.stop others rest areValues stop]
  have text : t ++ (between ++ (first :: others ++ rest)) =
      t ++ (between ++ first :: others) ++ rest := by
    simp
  have matched := m.matchAt_of_rest distinct allowed trigger run text
  obtain ⟨last, whole⟩ := Rule.applyFrom_of_taken (by simp) matched
  rw [text, whole, m.applyFrom_stop distinct stop]

/-- A match that goes on over a word takes what is left of a value behind the word. -/
theorem Masking.apply_across {word front out : List Char} (m : Masking rule v separator value)
    (scan : Scanning rule separator value skip) (distinct : v.Distinct)
    (letters : ∀ c ∈ word, key c ≠ ' ') (nonempty : word ≠ []) (fresh : ∀ rest, Fresh v (word ++ rest))
    (rewritten : ∀ c rest, Fresh v (c :: rest) → ∃ last, rule.applyFrom none 0 (front ++ c :: rest) =
      out ++ (rule.replacement t ++ rule.applyFrom (some last) 0 (skip rest))) :
    ∀ inside rest, (∀ c ∈ inside, value c = true) → (∀ c ∈ rest.head?, isValueChar c = false) →
      rule.apply (front ++ (word ++ (inside ++ rest))) =
        out ++ (rule.replacement t ++ rule.apply rest) := by
  intro inside rest values stop
  obtain ⟨c, others, rfl⟩ := List.exists_cons_of_ne_nil nonempty
  obtain ⟨last, whole⟩ := rewritten c (others ++ (inside ++ rest)) (fresh (inside ++ rest))
  have ended : skip (others ++ (inside ++ rest)) = rest := by
    rw [← List.append_assoc]
    refine scan.stop _ rest (List.forall_mem_append.mpr ⟨fun d mem => ?_, values⟩) stop
    exact m.value_key d (letters d (List.mem_cons_of_mem c mem))
  rw [Rule.apply, List.cons_append, whole, ended, m.applyFrom_stop distinct stop]

/-- A rule with the reader of its values, which are tokens or go on as values do. -/
theorem Known.scanning (known : Known rule v) : ∃ separator value skip, Masking rule v separator value ∧
    Scanning rule separator value skip ∧ (v = .bearer ∨ value = isValueChar) := by
  cases known with
  | bearer => exact ⟨_, _, _, masking_bearer, scanning_bearer, Or.inl rfl⟩
  | authorization => exact ⟨_, _, _, masking_authorization, scanning_of_value rfl, Or.inr rfl⟩
  | clientData => exact ⟨_, _, _, masking_clientData, scanning_of_value rfl, Or.inr rfl⟩
  | field mem => exact ⟨_, _, _, masking_field mem, scanning_of_value rfl, Or.inr rfl⟩

theorem Known.stop_apply (known : Known rule v) (stop : ∀ c ∈ s.head?, isValueChar c = false) :
    ∀ c ∈ (rule.apply s).head?, isValueChar c = false := by
  obtain ⟨separator, value, m⟩ := known.masking
  exact m.stop_of_rewrites (Vocabulary.distinct v known.mem_all)
    (Rule.rewrites_applyFrom m.positive none s) stop

end Match

end StorageController.Redaction
