import StorageController.Proofs.Redaction.Masking

namespace StorageController.Redaction

open Text

/-- Whatever the rule matches in a text, it leaves as it is. -/
def Calm (rule : Rule) : Option Char → List Char → Prop
  | _, [] => True
  | before, c :: rest =>
    (∀ taken replacement, rule.matchAt before (c :: rest) = some (taken, replacement) →
      replacement = (c :: rest).take taken) ∧ Calm rule (some c) rest

section Calm

variable {rule : Rule} {before : Option Char} {s out front back : List Char} {last : Char}

theorem Calm.tail (calm : Calm rule before (front ++ last :: back)) : Calm rule (some last) back := by
  induction front generalizing before with
  | nil => exact calm.2
  | cons c front ih => exact ih calm.2

theorem Calm.replacement_eq {replacement : List Char} (calm : Calm rule before (front ++ last :: back))
    (matched : rule.matchAt before (front ++ last :: back) = some (front.length + 1, replacement)) :
    replacement = front ++ [last] := by
  have taken : (front ++ last :: back).take (front.length + 1) = front ++ [last] := by
    rw [List.append_cons, List.take_left' (by simp)]
  rw [← taken]
  cases front with
  | nil => exact calm.1 _ _ matched
  | cons c front => exact calm.1 _ _ matched

theorem Rule.Rewrites.eq_of_calm (h : rule.Rewrites before s out) (calm : Calm rule before s) :
    out = s := by
  induction h with
  | done => rfl
  | keep _ _ ih => rw [ih calm.2]
  | replace matched _ ih => rw [ih calm.tail, calm.replacement_eq matched, List.append_assoc,
      List.singleton_append]

theorem Rule.apply_of_calm (positive : ¬ rule.tail.Takes []) (calm : Calm rule none s) :
    rule.apply s = s :=
  (Rule.rewrites_applyFrom positive none s).eq_of_calm calm

/-- Where the rewritten text first differs from the text, a masked keyword stands for a keyword. -/
theorem Rule.Rewrites.split (h : rule.Rewrites before s out) :
    out = s ∨ ∃ kept t more out', rule.Trigger t ∧ s = kept ++ (t ++ more) ∧
      out = kept ++ (rule.replacement t ++ out') := by
  induction h with
  | done => exact Or.inl rfl
  | keep _ _ ih =>
    rcases ih with rfl | ⟨kept, t, more, out', trigger, rfl, rfl⟩
    · exact Or.inl rfl
    · exact Or.inr ⟨_ :: kept, t, more, out', trigger, rfl, rfl⟩
  | replace matched _ _ =>
    obtain ⟨_, t, middle, eq, trigger, rfl, _⟩ := Rule.matchAt_sound matched
    exact Or.inr ⟨[], t, middle, _, trigger, eq, rfl⟩

end Calm

section Masking

variable {rule other : Rule} {v w : Vocabulary} {separator value separator' value' : Char → Bool}
  {before : Option Char} {s out t front back kept more rest : List Char} {first : Nat}

namespace Masking

theorem positive (m : Masking rule v separator value) : ¬ rule.tail.Takes [] := by
  obtain ⟨extra, tail, _⟩ := m.tail
  rw [tail]
  rintro ⟨between, _, eq, ⟨nonempty, _⟩, _⟩
  exact nonempty (List.append_eq_nil_iff.mp eq.symm).1

theorem letter (m : Masking rule v separator value) (distinct : v.Distinct)
    (trigger : rule.Trigger t) : ∃ c rest, t = c :: rest ∧ key c ≠ ' ' := by
  have head := (distinct _ (m.word t trigger)).1
  cases t with
  | nil => cases head
  | cons c rest => exact ⟨c, rest, rfl, by simpa using head⟩

theorem masked_letter (m : Masking rule v separator value) (distinct : v.Distinct)
    (trigger : rule.Trigger t) : ∃ c rest, rule.replacement t = c :: rest ∧ key c ≠ ' ' := by
  have masked := m.masked t trigger
  obtain ⟨d, _, rfl, isLetter⟩ := m.letter distinct trigger
  cases eq : rule.replacement (d :: _) with
  | nil =>
    rw [eq] at masked
    cases masked
  | cons c rest =>
    rw [eq] at masked
    exact ⟨c, rest, rfl, by rwa [(List.cons.inj masked).1]⟩

theorem not_begins_of_blank (m : Masking rule v separator value) (distinct : v.Distinct)
    (blank : ∀ c ∈ s.head?, key c = ' ') : ¬ rule.Begins s := by
  rintro ⟨t, _, _, rfl, trigger, _⟩
  obtain ⟨c, _, rfl, isLetter⟩ := m.letter distinct trigger
  exact isLetter (blank c rfl)

/-- No keyword of the one begins inside a masked keyword of the other. -/
theorem not_trigger_inside (m : Masking rule v separator value)
    (m' : Masking other w separator' value') (outside : w.Outside first v)
    (trigger : rule.Trigger t) (eq : rule.replacement t = front ++ back) (nonempty : back ≠ [])
    (le : first ≤ front.length) {t' : List Char} (same : back ++ more = t' ++ rest) :
    ¬ other.Trigger t' := by
  intro trigger'
  have keys : (v.masked (t.map key)).drop front.length = back.map key := by
    rw [← m.masked t trigger, eq, List.map_append, List.drop_left' (by simp)]
  have lengths : (v.masked (t.map key)).length = front.length + back.length := by
    rw [← m.masked t trigger, eq, List.length_map, List.length_append]
  have pos := List.length_pos_iff.mpr nonempty
  refine outside _ (m'.word t' trigger') _ (m.word t trigger) front.length (by omega) le ?_
  rw [keys]
  exact meets_of_prefix ⟨rest, rfl⟩ ⟨more, same⟩

theorem not_begins_inside (m : Masking rule v separator value)
    (m' : Masking other w separator' value') (outside : w.Outside first v)
    (trigger : rule.Trigger t) (eq : rule.replacement t = front ++ back) (nonempty : back ≠ [])
    (le : first ≤ front.length) : ¬ other.Begins (back ++ more) := by
  rintro ⟨t', _, _, same, trigger', _⟩
  exact m.not_trigger_inside m' outside trigger eq nonempty le same trigger'

/-- A match that begins before a masked keyword does not reach into it by its own keyword. -/
theorem not_touching (m : Masking rule v separator value)
    (m' : Masking other w separator' value') (touches : w.Touches v) (trigger : rule.Trigger t)
    (nonempty : kept ≠ []) (something : front ≠ []) (trigger' : other.Trigger (kept ++ front))
    {between : List Char} (between_ne : between ≠ [])
    (separators : ∀ c ∈ between, separator' c = true)
    (eq : rule.replacement t ++ out = front ++ (between ++ rest)) : False := by
  have pos := List.length_pos_iff.mpr nonempty
  have pos' := List.length_pos_iff.mpr something
  have masked := m.masked t trigger
  have back : ((kept ++ front).map key).drop kept.length = front.map key := by
    rw [List.map_append, List.drop_left' (by simp)]
  obtain ⟨one, goesOn⟩ := touches _ (m'.word _ trigger') _ (m.word t trigger) kept.length
    (by simp; omega) pos (by
      rw [back, ← masked]
      exact meets_of_prefix ⟨between ++ rest, rfl⟩ ⟨out, eq⟩)
  rw [back, List.length_map] at one
  obtain ⟨a, rfl⟩ := List.length_eq_one_iff.mp one
  obtain ⟨b, between, rfl⟩ := List.exists_cons_of_ne_nil between_ne
  have blank := m'.separator_key b (separators b List.mem_cons_self)
  rw [← masked] at goesOn
  have long : 2 ≤ (rule.replacement t).length := by
    rw [← List.length_map key, masked, Vocabulary.masked, List.length_append, List.length_append]
    exact Nat.le_trans (by decide) (Nat.le_trans (Nat.le_add_left _ _) (Nat.le_add_left _ _))
  obtain ⟨a', b', tail, region⟩ : ∃ a' b' tail, rule.replacement t = a' :: b' :: tail := by
    match rule.replacement t, long with
    | a' :: b' :: tail, _ => exact ⟨a', b', tail, rfl⟩
  rw [region] at eq goesOn
  obtain rfl : b' = b := (List.cons.inj (List.cons.inj eq).2).1
  exact goesOn (by simp [blank])

/-- What separates a keyword from its value ends before the next keyword. -/
theorem begins_of_separated (m : Masking rule v separator value)
    (m' : Masking other w separator' value') (distinct : v.Distinct) (trigger : rule.Trigger t)
    (trigger' : other.Trigger front) {between : List Char} {first : Char} (between_ne : between ≠ [])
    (separators : ∀ c ∈ between, separator' c = true) (isValue : value' first = true)
    (eq : back ++ (rule.replacement t ++ out) = between ++ first :: rest) :
    other.Begins (front ++ back ++ (t ++ more)) := by
  obtain ⟨a, _, region, isLetter⟩ := m.masked_letter distinct trigger
  obtain ⟨d, others, keyword, isLetter'⟩ := m.letter distinct trigger
  rw [m'.begins_iff]
  rcases List.append_eq_append_iff.mp eq with ⟨as, between_eq, same⟩ | ⟨cs, rfl, same⟩
  · cases as with
    | nil =>
      rw [List.append_nil] at between_eq
      subst between_eq
      exact ⟨front, between, d, others ++ more, by simp [keyword], trigger', between_ne, separators,
        m'.value_key d isLetter'⟩
    | cons c as =>
      rw [region] at same
      obtain rfl : a = c := (List.cons.inj same).1
      exact absurd (m'.separator_key a (separators a (by simp [between_eq]))) isLetter
  · cases cs with
    | nil =>
      exact ⟨front, between, d, others ++ more, by simp [keyword], trigger', between_ne, separators,
        m'.value_key d isLetter'⟩
    | cons c cs =>
      obtain rfl : first = c := (List.cons.inj same).1
      exact ⟨front, between, first, cs ++ (t ++ more), by simp, trigger', between_ne, separators,
        isValue⟩

/-- A match that begins before a masked keyword was there before it was masked. -/
theorem begins_of_kept (m : Masking rule v separator value)
    (m' : Masking other w separator' value') (distinct : v.Distinct) (touches : w.Touches v)
    (trigger : rule.Trigger t) (nonempty : kept ≠ [])
    (h : other.Begins (kept ++ (rule.replacement t ++ out))) :
    other.Begins (kept ++ (t ++ more)) := by
  obtain ⟨t', between, first, rest, eq, trigger', between_ne, separators, isValue⟩ :=
    m'.begins_iff.mp h
  rcases List.append_eq_append_iff.mp eq with ⟨front, rfl, same⟩ | ⟨bs, rfl, same⟩
  · cases front with
    | nil =>
      rw [List.append_nil] at trigger'
      rw [← List.append_nil kept]
      exact m.begins_of_separated m' distinct trigger trigger' between_ne separators isValue same
    | cons d front =>
      exact (m.not_touching m' touches trigger nonempty (by simp) trigger' between_ne separators
        same).elim
  · exact m.begins_of_separated m' distinct trigger trigger' between_ne separators isValue same.symm

/-- Where a rule does not match, it does not match after the text behind has been rewritten. -/
theorem unmatched_of_kept {before' : Option Char} (m : Masking rule v separator value)
    (m' : Masking other w separator' value') (distinct : v.Distinct) (touches : w.Touches v)
    (h : rule.Rewrites before s out) (nonempty : kept ≠ [])
    (unmatched : other.matchAt before' (kept ++ s) = none) :
    other.matchAt before' (kept ++ out) = none := by
  rcases h.split with rfl | ⟨kept', t, more, out', trigger, rfl, rfl⟩
  · exact unmatched
  · rw [Option.eq_none_iff_forall_ne_some]
    rintro ⟨taken, replacement⟩ matched
    obtain ⟨allowed, begins⟩ := Rule.begins_of_matchAt matched
    rw [← List.append_assoc] at begins
    have begun : other.Begins (kept ++ kept' ++ (t ++ more)) :=
      m.begins_of_kept m' distinct touches trigger (by simp [nonempty]) begins
    obtain ⟨_, _, matched'⟩ := Rule.matchAt_of_begins allowed begun
    rw [List.append_assoc, unmatched] at matched'
    cases matched'

theorem head?_of_rewrites (m : Masking rule v separator value) (distinct : v.Distinct)
    (h : rule.Rewrites before s out) (blank : ∀ c ∈ s.head?, key c = ' ') :
    out.head? = s.head? := by
  rcases h.split with rfl | ⟨kept, t, more, out', trigger, rfl, rfl⟩
  · rfl
  · cases kept with
    | nil =>
      obtain ⟨c, _, rfl, isLetter⟩ := m.letter distinct trigger
      exact absurd (blank c rfl) isLetter
    | cons c kept => rfl

/-- A value that was masked ends where it ended. -/
theorem stop_of_rewrites (m : Masking rule v separator value) (distinct : v.Distinct)
    (h : rule.Rewrites before s out) (stop : ∀ c ∈ s.head?, isValueChar c = false) :
    ∀ c ∈ out.head?, isValueChar c = false := by
  rw [m.head?_of_rewrites distinct h fun c mem => key_of_stop (stop c mem)]
  exact stop

end Masking

theorem Calm.anywhere (calm : Calm rule before s) (m : Masking rule v separator value)
    (distinct : v.Distinct)
    (free : (∀ c, rule.after c = true) ∨ ∀ c ∈ s.head?, key c = ' ') (before' : Option Char) :
    Calm rule before' s := by
  cases s with
  | nil => trivial
  | cons c rest =>
    refine ⟨fun taken replacement matched => ?_, calm.2⟩
    rcases free with total | blank
    · have allowed : ∀ before : Option Char, before.all rule.after = true := by
        rintro (_ | c)
        · rfl
        · exact total c
      rw [Rule.matchAt_congr (allowed before') (allowed before)] at matched
      exact calm.1 _ _ matched
    · exact absurd (Rule.begins_of_matchAt matched).2 (m.not_begins_of_blank distinct blank)

theorem calm_masked (m : Masking rule v separator value) (m' : Masking other w separator' value')
    (distinct : v.Distinct) (outside : w.Outside 1 v) (trigger : rule.Trigger t)
    (start : ∀ taken replacement,
      other.matchAt before (rule.replacement t ++ out) = some (taken, replacement) →
        replacement = (rule.replacement t ++ out).take taken)
    (calm : ∀ before, Calm other before out) : Calm other before (rule.replacement t ++ out) := by
  have inside : ∀ back front before, front ≠ [] → rule.replacement t = front ++ back →
      Calm other before (back ++ out) := by
    intro back
    induction back with
    | nil => exact fun _ before _ _ => calm before
    | cons c back ih =>
      intro front before nonempty eq
      refine ⟨fun taken replacement matched => ?_, ih (front ++ [c]) _ (by simp) (by simp [eq])⟩
      exact absurd (Rule.begins_of_matchAt matched).2 (m.not_begins_inside m' outside trigger eq
        (by simp) (List.length_pos_iff.mpr nonempty))
  obtain ⟨c, back, eq, _⟩ := m.masked_letter distinct trigger
  rw [eq] at start ⊢
  exact ⟨start, inside back [c] _ (by simp) eq⟩

/-- A rule has nothing left to do in what it has rewritten. -/
theorem Rule.Rewrites.calm (h : rule.Rewrites before s out) (m : Masking rule v separator value)
    (distinct : v.Distinct) (touches : v.Touches v) (outside : v.Outside 1 v)
    (bounded : rule.Bounded ∨ ∀ c, rule.after c = true) : Calm rule before out := by
  induction h with
  | done => trivial
  | @keep before c rest out unmatched further ih =>
    refine ⟨fun taken replacement matched => ?_, ih⟩
    have unmatched' : rule.matchAt before ([c] ++ out) = none :=
      m.unmatched_of_kept m distinct touches further (List.cons_ne_nil c []) unmatched
    rw [List.singleton_append, matched] at unmatched'
    cases unmatched'
  | @replace before front rest replacement out last matched further ih =>
    obtain ⟨_, t, _, _, trigger, rfl, _⟩ := Rule.matchAt_sound matched
    have stop : rule.Bounded → ∀ c ∈ out.head?, isValueChar c = false :=
      fun bounded => m.stop_of_rewrites distinct further (bounded _ _ _ _ _ matched)
    have free : (∀ c, rule.after c = true) ∨ ∀ c ∈ out.head?, key c = ' ' :=
      bounded.symm.imp_right fun bounded c mem => key_of_stop (stop bounded c mem)
    exact calm_masked m m distinct outside trigger
      (fun taken replacement matched => m.fixed _ _ _ _ _ trigger stop matched)
      (ih.anywhere m distinct free)

theorem masked_of_kept (m : Masking rule v separator value) (m' : Masking other w separator' value')
    (distinct : v.Distinct) (outside : v.Outside 1 w) (trigger : rule.Trigger t)
    (nonempty : kept ≠ []) {t' : List Char} (trigger' : other.Trigger t')
    (eq : kept ++ (t ++ more) = other.replacement t' ++ rest)
    (stop : ∀ c ∈ rest.head?, isValueChar c = false) :
    ∃ rest', kept ++ (rule.replacement t ++ out) = other.replacement t' ++ rest' ∧
      ∀ c ∈ rest'.head?, isValueChar c = false := by
  obtain ⟨c, _, keyword, isLetter⟩ := m.letter distinct trigger
  have goesOn : t ++ more ≠ rest := by
    rintro rfl
    exact isLetter (key_of_stop (stop c (by simp [keyword])))
  rcases List.append_eq_append_iff.mp eq with ⟨as, masked, same⟩ | ⟨bs, rfl, rfl⟩
  · cases as with
    | nil => exact absurd same goesOn
    | cons a as =>
      exact absurd trigger (m'.not_trigger_inside m outside trigger' masked (by simp)
        (List.length_pos_iff.mpr nonempty) same.symm)
  · refine ⟨bs ++ (rule.replacement t ++ out), by simp, ?_⟩
    cases bs with
    | nil => exact absurd rfl goesOn
    | cons b bs => exact stop

/-- A rule makes nothing that another rule would match. -/
theorem Rule.Rewrites.calm_of_calm (h : rule.Rewrites before s out)
    (m : Masking rule v separator value) (m' : Masking other w separator' value')
    (distinct : v.Distinct) (distinct' : w.Distinct) (touches : w.Touches v)
    (outside : w.Outside 0 v) (outside' : v.Outside 0 w) (bounded : rule.Bounded)
    (calm : Calm other before s) : Calm other before out := by
  have outside₁ : w.Outside 1 v := fun x mem y mem' k lt _ => outside x mem y mem' k lt k.zero_le
  have outside₁' : v.Outside 1 w := fun x mem y mem' k lt _ => outside' x mem y mem' k lt k.zero_le
  induction h with
  | done => trivial
  | @keep before c rest out unmatched further ih =>
    refine ⟨fun taken replacement matched => ?_, ih calm.2⟩
    rcases further.split with rfl | ⟨kept, t, more, out', trigger, rfl, rfl⟩
    · exact calm.1 _ _ matched
    · obtain ⟨allowed, begins⟩ := Rule.begins_of_matchAt matched
      have before' : other.Begins (c :: kept ++ (t ++ more)) :=
        m.begins_of_kept m' distinct touches trigger (by simp) begins
      obtain ⟨_, _, matched'⟩ := Rule.matchAt_of_begins allowed before'
      obtain ⟨t', after, trigger', eq, stop⟩ := m'.stays _ _ _ _ matched' (calm.1 _ _ matched')
      obtain ⟨after', eq', stop'⟩ :
          ∃ after', c :: kept ++ (rule.replacement t ++ out') = other.replacement t' ++ after' ∧
            ∀ c ∈ after'.head?, isValueChar c = false :=
        masked_of_kept m m' distinct outside₁' trigger (by simp) trigger' eq stop
      rw [← List.cons_append, eq'] at matched ⊢
      exact m'.fixed _ _ _ _ _ trigger' (fun _ => stop') matched
  | @replace before front rest replacement out last matched further ih =>
    obtain ⟨_, t, _, _, trigger, rfl, _⟩ := Rule.matchAt_sound matched
    have stop := m.stop_of_rewrites distinct further (bounded _ _ _ _ _ matched)
    refine calm_masked m m' distinct outside₁ trigger (fun taken replacement matched => ?_)
      ((ih calm.tail).anywhere m' distinct' (Or.inr fun c mem => key_of_stop (stop c mem)))
    obtain ⟨c, _, region, _⟩ := m.masked_letter distinct trigger
    exact absurd (Rule.begins_of_matchAt matched).2 (m.not_begins_inside m' outside trigger
      (List.nil_append _).symm (by simp [region]) (Nat.le_refl 0))

end Masking

theorem field_ne_header : ∀ name ∈ sensitiveFields, Vocabulary.field name ≠ .bearer ∧
    Vocabulary.field name ≠ .authorization ∧ Vocabulary.field name ≠ .clientData := by
  decide

theorem field_eq_or_ne : ∀ name ∈ sensitiveFields, ∀ name' ∈ sensitiveFields,
    name = name' ∨ Vocabulary.field name ≠ .field name' := by
  decide

/-- The rules of redaction, each with its vocabulary. -/
inductive Known : Rule → Vocabulary → Prop
  | bearer : Known bearerRule .bearer
  | authorization : Known authorizationRule .authorization
  | clientData : Known clientDataRule .clientData
  | field {name : String} (mem : name ∈ sensitiveFields) : Known (fieldRule name) (.field name)

namespace Known

variable {rule other : Rule} {v w : Vocabulary} {s : List Char}

theorem masking (known : Known rule v) : ∃ separator value, Masking rule v separator value := by
  cases known with
  | bearer => exact ⟨_, _, masking_bearer⟩
  | authorization => exact ⟨_, _, masking_authorization⟩
  | clientData => exact ⟨_, _, masking_clientData⟩
  | field mem => exact ⟨_, _, masking_field mem⟩

theorem mem_all (known : Known rule v) : v ∈ Vocabulary.all := by
  cases known with
  | bearer => decide
  | authorization => decide
  | clientData => decide
  | field mem => exact field_mem_all mem

theorem positive (known : Known rule v) : ¬ rule.tail.Takes [] := by
  obtain ⟨_, _, m⟩ := known.masking
  exact m.positive

theorem eq_or_ne (known : Known rule v) (known' : Known other w) : rule = other ∨ v ≠ w := by
  cases known <;> cases known'
  case field.field name mem name' mem' => exact (field_eq_or_ne name mem name' mem').imp_left (congrArg _)
  case field.bearer mem => exact Or.inr (field_ne_header _ mem).1
  case field.authorization mem => exact Or.inr (field_ne_header _ mem).2.1
  case field.clientData mem => exact Or.inr (field_ne_header _ mem).2.2
  case bearer.field mem => exact Or.inr (field_ne_header _ mem).1.symm
  case authorization.field mem => exact Or.inr (field_ne_header _ mem).2.1.symm
  case clientData.field mem => exact Or.inr (field_ne_header _ mem).2.2.symm
  all_goals first | exact Or.inl rfl | exact Or.inr (by decide)

/-- A rule whose values do not end where values end matches wherever its keyword stands. -/
theorem bounded_or (known : Known rule v) : rule.Bounded ∨ rule = bearerRule := by
  cases known with
  | bearer => exact Or.inr rfl
  | authorization => exact Or.inl (bounded_of_tail rfl)
  | clientData => exact Or.inl (bounded_of_tail rfl)
  | field => exact Or.inl (bounded_of_tail rfl)

theorem calm_apply (known : Known rule v) : Calm rule none (rule.apply s) := by
  obtain ⟨_, _, m⟩ := known.masking
  obtain ⟨outside, touches⟩ := Vocabulary.outside_touches v known.mem_all v known.mem_all
  refine (Rule.rewrites_applyFrom m.positive none s).calm m (Vocabulary.distinct v known.mem_all)
    touches outside (known.bounded_or.imp_right ?_)
  rintro rfl _
  rfl

theorem calm_apply_of_calm (known : Known rule v) (known' : Known other w) (bounded : rule.Bounded)
    (calm : Calm other none s) : Calm other none (rule.apply s) := by
  rcases known.eq_or_ne known' with rfl | different
  · exact known.calm_apply
  · obtain ⟨_, _, m⟩ := known.masking
    obtain ⟨_, _, m'⟩ := known'.masking
    exact (Rule.rewrites_applyFrom m.positive none s).calm_of_calm m m'
      (Vocabulary.distinct v known.mem_all) (Vocabulary.distinct w known'.mem_all)
      (Vocabulary.outside_touches w known'.mem_all v known.mem_all).2
      (Vocabulary.outside w known'.mem_all v known.mem_all different.symm)
      (Vocabulary.outside v known.mem_all w known'.mem_all different) bounded calm

end Known

/-- Rules that are applied one after the other leave nothing to do for any of them. -/
theorem calm_foldl {rules seen : List Rule} {s : List Char}
    (known : ∀ rule ∈ rules, (∃ v, Known rule v) ∧ rule.Bounded)
    (known' : ∀ rule ∈ seen, ∃ v, Known rule v) (calm : ∀ rule ∈ seen, Calm rule none s) :
    ∀ rule ∈ seen ++ rules, Calm rule none (rules.foldl (fun s rule => rule.apply s) s) := by
  induction rules generalizing seen s with
  | nil => simpa using calm
  | cons rule rules ih =>
    obtain ⟨⟨⟨v, isKnown⟩, bounded⟩, others⟩ := List.forall_mem_cons.mp known
    rw [List.append_cons]
    refine ih others ?_ ?_
    · rw [List.forall_mem_append, List.forall_mem_singleton]
      exact ⟨known', v, isKnown⟩
    · rw [List.forall_mem_append, List.forall_mem_singleton]
      refine ⟨fun other mem => ?_, isKnown.calm_apply⟩
      obtain ⟨w, otherKnown⟩ := known' other mem
      exact isKnown.calm_apply_of_calm otherKnown bounded (calm other mem)

theorem foldl_of_fixed {rules : List Rule} {s : List Char}
    (fixed : ∀ rule ∈ rules, rule.apply s = s) : rules.foldl (fun s rule => rule.apply s) s = s := by
  induction rules with
  | nil => rfl
  | cons rule rules ih =>
    obtain ⟨isFixed, others⟩ := List.forall_mem_cons.mp fixed
    rw [List.foldl_cons, isFixed, ih others]

theorem foldl_of_calm {rules : List Rule} {s : List Char}
    (positive : ∀ rule ∈ rules, ¬ rule.tail.Takes []) (calm : ∀ rule ∈ rules, Calm rule none s) :
    rules.foldl (fun s rule => rule.apply s) s = s :=
  foldl_of_fixed fun rule mem => Rule.apply_of_calm (positive rule mem) (calm rule mem)

/-- In an order of the sensitive fields every field is visited once. -/
theorem others_of_order {earlier later : List String} {field : String}
    (order : (earlier ++ field :: later).Perm sensitiveFields) :
    field ∈ sensitiveFields ∧ ∀ name ∈ earlier ++ later, name ∈ sensitiveFields ∧ name ≠ field := by
  have once : (field :: (earlier ++ later)).Perm sensitiveFields := List.perm_middle.symm.trans order
  have distinct : (field :: (earlier ++ later)).Nodup := once.nodup_iff.mpr (by decide)
  refine ⟨once.subset List.mem_cons_self, fun name mem => ?_⟩
  refine ⟨once.subset (List.mem_cons_of_mem field mem), ?_⟩
  rintro rfl
  exact (List.nodup_cons.mp distinct).1 mem

/-- The rules that are applied after the one of tokens. -/
def laterRules (fields : List String) : List Rule :=
  [authorizationRule, clientDataRule] ++ fields.map fieldRule

theorem toList_redactWith (fields : List String) (message : String) :
    (redactWith fields message).toList =
      (laterRules fields).foldl (fun s rule => rule.apply s) (bearerRule.apply message.toList) :=
  String.toList_ofList

theorem known_of_mem {fields : List String} (sensitive : ∀ name ∈ fields, name ∈ sensitiveFields) :
    ∀ rule ∈ laterRules fields, ∃ v, Known rule v ∧ rule.Bounded ∧ v ≠ .bearer ∧
      ∀ name ∈ sensitiveFields, name ∉ fields → v ≠ .field name := by
  intro rule mem
  rcases List.mem_append.mp mem with header | field
  · rcases List.mem_cons.mp header with rfl | header
    · exact ⟨_, .authorization, bounded_of_tail rfl, by decide,
        fun name mem _ => (field_ne_header name mem).2.1.symm⟩
    · obtain rfl := List.mem_singleton.mp header
      exact ⟨_, .clientData, bounded_of_tail rfl, by decide,
        fun name mem _ => (field_ne_header name mem).2.2.symm⟩
  · obtain ⟨name, visited, rfl⟩ := List.mem_map.mp field
    have isField := sensitive name visited
    refine ⟨_, .field isField, bounded_of_tail rfl, (field_ne_header name isField).1, ?_⟩
    intro other mem unvisited
    refine (field_eq_or_ne name isField other mem).resolve_left ?_
    rintro rfl
    exact unvisited visited

theorem exists_known {fields : List String} (sensitive : ∀ name ∈ fields, name ∈ sensitiveFields) :
    ∀ rule ∈ bearerRule :: laterRules fields, ∃ v, Known rule v := by
  refine List.forall_mem_cons.mpr ⟨⟨_, .bearer⟩, fun rule mem => ?_⟩
  obtain ⟨v, isKnown, _⟩ := known_of_mem sensitive rule mem
  exact ⟨v, isKnown⟩

/-- A message in which no rule has anything left to do. -/
theorem redactWith_of_calm {fields : List String} {message : String}
    (sensitive : ∀ name ∈ fields, name ∈ sensitiveFields)
    (calm : ∀ rule ∈ bearerRule :: laterRules fields, Calm rule none message.toList) :
    redactWith fields message = message := by
  have positive : ∀ rule ∈ bearerRule :: laterRules fields, ¬ rule.tail.Takes [] := by
    intro rule mem
    obtain ⟨v, isKnown⟩ := exists_known sensitive rule mem
    exact isKnown.positive
  refine String.toList_inj.mp ?_
  rw [toList_redactWith]
  exact foldl_of_calm positive calm

/-- Redaction in any order of the sensitive fields changes nothing when it is repeated. -/
theorem redactWith_redactWith {fields : List String}
    (sensitive : ∀ name ∈ fields, name ∈ sensitiveFields) (message : String) :
    redactWith fields (redactWith fields message) = redactWith fields message := by
  have known : ∀ rule ∈ laterRules fields, (∃ v, Known rule v) ∧ rule.Bounded := by
    intro rule mem
    obtain ⟨v, isKnown, bounded, _⟩ := known_of_mem sensitive rule mem
    exact ⟨⟨v, isKnown⟩, bounded⟩
  refine redactWith_of_calm sensitive ?_
  rw [toList_redactWith]
  exact calm_foldl known (List.forall_mem_singleton.mpr ⟨_, .bearer⟩)
    (List.forall_mem_singleton.mpr Known.bearer.calm_apply)

theorem redact_redact [VisitingOrder] (message : String) :
    redact (redact message) = redact message :=
  redactWith_redactWith (fun _ mem => VisitingOrder.complete.subset mem) message

end StorageController.Redaction
