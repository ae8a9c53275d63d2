import StorageController.Redaction.Pattern

namespace StorageController.Redaction

def Piece.Takes : Piece → List Char → Prop
  | .one ofClass, s => ∃ c, s = [c] ∧ ofClass c = true
  | .optional ofClass, s => s = [] ∨ ∃ c, s = [c] ∧ ofClass c = true
  | .many ofClass, s => ∀ c ∈ s, ofClass c = true
  | .some ofClass, s => s ≠ [] ∧ ∀ c ∈ s, ofClass c = true

def Pattern.Takes : Pattern → List Char → Prop
  | [], s => s = []
  | piece :: pieces, s =>
    ∃ front back, s = front ++ back ∧ piece.Takes front ∧ Pattern.Takes pieces back

section Run

variable {β : Type} {next : List Char → Option β} {ofClass : Char → Bool} {s front back : List Char}
  {b : β}

theorem tryMany_sound (h : tryMany ofClass next s = some b) :
    ∃ front back, s = front ++ back ∧ (∀ c ∈ front, ofClass c = true) ∧ next back = some b := by
  induction s with
  | nil => exact ⟨[], [], rfl, by simp, h⟩
  | cons c rest ih =>
    rw [tryMany] at h
    split at h
    next inClass =>
      rcases Option.or_eq_some_iff.mp h with further | ⟨_, here⟩
      · obtain ⟨front, back, rfl, all, found⟩ := ih further
        exact ⟨c :: front, back, rfl, List.forall_mem_cons.mpr ⟨inClass, all⟩, found⟩
      · exact ⟨[], _, rfl, by simp, here⟩
    next => exact ⟨[], _, rfl, by simp, h⟩

theorem tryMany_complete (all : ∀ c ∈ front, ofClass c = true) (found : (next back).isSome) :
    (tryMany ofClass next (front ++ back)).isSome := by
  induction front with
  | nil =>
    cases back with
    | nil => exact found
    | cons c rest =>
      rw [List.nil_append, tryMany]
      split
      · rw [Option.isSome_or, found, Bool.or_true]
      · exact found
  | cons c front ih =>
    obtain ⟨inClass, others⟩ := List.forall_mem_cons.mp all
    rw [List.cons_append, tryMany, if_pos inClass, Option.isSome_or, ih others, Bool.true_or]

/-- Where whatever follows succeeds, as many characters are taken as there are. -/
theorem tryMany_greedy (total : ∀ s, (next s).isSome) :
    tryMany ofClass next s = next (s.dropWhile ofClass) := by
  induction s with
  | nil => rfl
  | cons c rest ih =>
    rw [tryMany, List.dropWhile_cons, ih]
    split
    · exact Option.or_of_isSome (total _)
    · rfl

theorem piece_sound {piece : Piece} (h : piece.run next s = some b) :
    ∃ front back, s = front ++ back ∧ piece.Takes front ∧ next back = some b := by
  cases piece with
  | many ofClass => exact tryMany_sound h
  | one ofClass =>
    cases s with
    | nil => cases h
    | cons c rest =>
      rw [Piece.run] at h
      split at h
      next inClass => exact ⟨[c], rest, rfl, ⟨c, rfl, inClass⟩, h⟩
      next => cases h
  | optional ofClass =>
    cases s with
    | nil => exact ⟨[], [], rfl, Or.inl rfl, h⟩
    | cons c rest =>
      rw [Piece.run] at h
      split at h
      next inClass =>
        rcases Option.or_eq_some_iff.mp h with taken | ⟨_, left⟩
        · exact ⟨[c], rest, rfl, Or.inr ⟨c, rfl, inClass⟩, taken⟩
        · exact ⟨[], c :: rest, rfl, Or.inl rfl, left⟩
      next => exact ⟨[], c :: rest, rfl, Or.inl rfl, h⟩
  | some ofClass =>
    cases s with
    | nil => cases h
    | cons c rest =>
      rw [Piece.run] at h
      split at h
      next inClass =>
        obtain ⟨front, back, rfl, all, found⟩ := tryMany_sound h
        exact ⟨c :: front, back, rfl, ⟨by simp, List.forall_mem_cons.mpr ⟨inClass, all⟩⟩, found⟩
      next => cases h

theorem piece_complete {piece : Piece} (takes : piece.Takes front) (found : (next back).isSome) :
    (piece.run next (front ++ back)).isSome := by
  cases piece with
  | many ofClass => exact tryMany_complete takes found
  | one ofClass =>
    obtain ⟨c, rfl, inClass⟩ := takes
    rw [List.singleton_append, Piece.run, if_pos inClass]
    exact found
  | optional ofClass =>
    rcases takes with rfl | ⟨c, rfl, inClass⟩
    · cases back with
      | nil => exact found
      | cons c rest =>
        rw [List.nil_append, Piece.run]
        split
        · rw [Option.isSome_or, found, Bool.or_true]
        · exact found
    · rw [List.singleton_append, Piece.run, if_pos inClass, Option.isSome_or, found, Bool.true_or]
  | some ofClass =>
    obtain ⟨nonempty, all⟩ := takes
    cases front with
    | nil => exact absurd rfl nonempty
    | cons c front =>
      obtain ⟨inClass, others⟩ := List.forall_mem_cons.mp all
      rw [List.cons_append, Piece.run, if_pos inClass]
      exact tryMany_complete others found

theorem Pattern.run_sound {pattern : Pattern} (h : pattern.run next s = some b) :
    ∃ front back, s = front ++ back ∧ pattern.Takes front ∧ next back = some b := by
  induction pattern generalizing s with
  | nil => exact ⟨[], s, rfl, rfl, h⟩
  | cons piece pieces ih =>
    obtain ⟨first, others, rfl, takes, h⟩ := piece_sound h
    obtain ⟨front, back, rfl, takes', found⟩ := ih h
    exact ⟨first ++ front, back, by simp, ⟨first, front, rfl, takes, takes'⟩, found⟩

theorem Pattern.run_complete {pattern : Pattern} (takes : pattern.Takes front)
    (found : (next back).isSome) : (pattern.run next (front ++ back)).isSome := by
  induction pattern generalizing front with
  | nil =>
    obtain rfl : front = [] := takes
    exact found
  | cons piece pieces ih =>
    obtain ⟨first, others, rfl, takes, takes'⟩ := takes
    rw [List.append_assoc]
    exact piece_complete takes (ih takes')

end Run

section Search

variable {β γ : Type} {ofClass : Char → Bool} {next : List Char → Option β} {s rest : List Char}

/-- A search does not pass a character of another class. -/
theorem tryMany_append (stops : ∀ c ∈ rest.head?, ofClass c = false) :
    tryMany ofClass next (s ++ rest) = tryMany ofClass (fun back => next (back ++ rest)) s := by
  induction s with
  | nil =>
    cases rest with
    | nil => rfl
    | cons c rest =>
      have other : ofClass c = false := stops c rfl
      simp [tryMany, other]
  | cons c s ih =>
    rw [List.cons_append, tryMany, tryMany, ih]
    rfl

/-- The characters that a piece may take. -/
def Piece.accepts : Piece → Char → Bool
  | .one ofClass | .optional ofClass | .many ofClass | .some ofClass => ofClass

theorem Piece.run_append {piece : Piece} (stops : ∀ c ∈ rest.head?, piece.accepts c = false) :
    piece.run next (s ++ rest) = piece.run (fun back => next (back ++ rest)) s := by
  cases s with
  | nil =>
    cases rest with
    | nil => cases piece <;> rfl
    | cons c rest =>
      have other : piece.accepts c = false := stops c rfl
      cases piece <;> rw [Piece.accepts] at other <;> simp [Piece.run, tryMany, other]
  | cons c s =>
    cases piece with
    | one => rfl
    | optional => rfl
    | many => exact tryMany_append stops
    | some ofClass =>
      have further : tryMany ofClass next (s ++ rest) =
          tryMany ofClass (fun back => next (back ++ rest)) s :=
        tryMany_append stops
      rw [List.cons_append, Piece.run, Piece.run, further]

theorem Pattern.run_append {pattern : Pattern}
    (stops : ∀ piece ∈ pattern, ∀ c ∈ rest.head?, piece.accepts c = false) :
    pattern.run next (s ++ rest) = pattern.run (fun back => next (back ++ rest)) s := by
  induction pattern generalizing s with
  | nil => rfl
  | cons piece pieces ih =>
    obtain ⟨stop, others⟩ := List.forall_mem_cons.mp stops
    rw [Pattern.run, Piece.run_append stop, Pattern.run]
    exact congrArg (fun next => piece.run next s) (funext fun _ => ih others)

/-- Which way a search takes depends only on where it could go on. -/
theorem tryMany_guard {goesOn : List Char → Bool} (h : ∀ s, (next s).isSome = goesOn s) :
    tryMany ofClass next s = (tryMany ofClass (Option.guard goesOn) s).bind next := by
  have here : ∀ s, next s = (Option.guard goesOn s).bind next := by
    intro s
    cases goes : goesOn s with
    | true => simp [Option.guard, goes]
    | false =>
      have fails : next s = none := Option.not_isSome_iff_eq_none.mp (by simp [h, goes])
      simp [Option.guard, goes, fails]
  induction s with
  | nil => exact here []
  | cons c rest ih =>
    rw [tryMany, tryMany]
    split
    next =>
      rw [ih]
      cases found : tryMany ofClass (Option.guard goesOn) rest with
      | none => exact here (c :: rest)
      | some back =>
        obtain ⟨_, reached, _, _, guarded⟩ := tryMany_sound found
        obtain ⟨rfl, goes⟩ := Option.guard_eq_some_iff.mp guarded
        exact Option.or_of_isSome ((h _).trans goes)
    next => exact here (c :: rest)

theorem run_some_guard {goesOn : List Char → Bool} (h : ∀ s, (next s).isSome = goesOn s) :
    (Piece.some ofClass).run next s =
      ((Piece.some ofClass).run (Option.guard goesOn) s).bind next := by
  cases s with
  | nil => rfl
  | cons c rest =>
    rw [Piece.run, Piece.run]
    split
    · exact tryMany_guard h
    · rfl

/-- As many characters are taken as there are, if what follows them succeeds. -/
theorem tryMany_dropWhile (h : (next (s.dropWhile ofClass)).isSome) :
    tryMany ofClass next s = next (s.dropWhile ofClass) := by
  induction s with
  | nil => rfl
  | cons c rest ih =>
    rw [List.dropWhile_cons] at h ⊢
    rw [tryMany]
    split
    next inClass =>
      rw [if_pos inClass] at h
      rw [ih h]
      exact Option.or_of_isSome h
    next => rfl

theorem tryMany_map (g : β → γ) :
    tryMany ofClass (fun rest => (next rest).map g) s = (tryMany ofClass next s).map g := by
  induction s with
  | nil => rfl
  | cons c rest ih =>
    rw [tryMany, tryMany, ih]
    split
    · rw [Option.map_or]
    · rfl

theorem Piece.run_map (piece : Piece) (g : β → γ) :
    piece.run (fun rest => (next rest).map g) s = (piece.run next s).map g := by
  cases piece with
  | many ofClass => exact tryMany_map g
  | one ofClass =>
    cases s with
    | nil => rfl
    | cons c rest =>
      rw [Piece.run, Piece.run]
      split <;> rfl
  | optional ofClass =>
    cases s with
    | nil => rfl
    | cons c rest =>
      rw [Piece.run, Piece.run]
      split
      · rw [Option.map_or]
      · rfl
  | some ofClass =>
    cases s with
    | nil => rfl
    | cons c rest =>
      rw [Piece.run, Piece.run]
      split
      · exact tryMany_map g
      · rfl

theorem Pattern.run_map (pattern : Pattern) (g : β → γ) :
    pattern.run (fun rest => (next rest).map g) s = (pattern.run next s).map g := by
  induction pattern generalizing s with
  | nil => rfl
  | cons piece pieces ih =>
    rw [Pattern.run, Pattern.run, ← Piece.run_map]
    exact congrArg (fun next => piece.run next s) (funext fun _ => ih)

theorem findSome?_congr {β γ : Type} {f g : β → Option γ} {l : List β}
    (h : ∀ b ∈ l, f b = g b) : l.findSome? f = l.findSome? g := by
  induction l with
  | nil => rfl
  | cons b l ih =>
    obtain ⟨here, others⟩ := List.forall_mem_cons.mp h
    rw [List.findSome?_cons, List.findSome?_cons, here, ih others]

theorem getLast?_cons_or {before : Option Char} (c : Char) (s : List Char) :
    (c :: s).getLast?.or before = s.getLast?.or (some c) := by
  cases s with
  | nil => rfl
  | cons d s => simp [List.getLast?_cons]

theorem getLast?_append_or {before : Option Char} (front : List Char) (last : Char) (s : List Char) :
    (front ++ last :: s).getLast?.or before = s.getLast?.or (some last) := by
  rw [List.getLast?_append, Option.or_assoc, List.getLast?_cons]
  cases s.getLast? <;> simp

end Search

namespace Rule

variable {rule : Rule} {before : Option Char} {s rest out : List Char} {taken : Nat}
  {replacement : List Char}

def Trigger (rule : Rule) (t : List Char) : Prop :=
  ∃ trigger ∈ rule.triggers, trigger.Takes t

theorem matchAt_sound (h : rule.matchAt before s = some (taken, replacement)) :
    before.all rule.after = true ∧ ∃ t middle, s = t ++ middle ∧ rule.Trigger t ∧
      replacement = rule.replacement t ∧
      rule.tail.run (fun rest => some (s.length - rest.length, rule.replacement t)) middle =
        some (taken, replacement) := by
  rw [matchAt] at h
  split at h
  next allowed =>
    obtain ⟨trigger, mem, h⟩ := List.exists_of_findSome?_eq_some h
    obtain ⟨t, middle, rfl, takes, h⟩ := Pattern.run_sound h
    have front : (t ++ middle).take ((t ++ middle).length - middle.length) = t := by simp
    rw [front] at h
    obtain ⟨_, rest, _, _, found⟩ := Pattern.run_sound h
    exact ⟨allowed, t, middle, rfl, ⟨trigger, mem, takes⟩, (Prod.mk.inj (Option.some.inj found)).2.symm,
      h⟩
  next => cases h

theorem matchAt_complete {t middle rest : List Char} (allowed : before.all rule.after = true)
    (trigger : rule.Trigger t) (takes : rule.tail.Takes middle) :
    (rule.matchAt before (t ++ (middle ++ rest))).isSome := by
  obtain ⟨pattern, mem, taken⟩ := trigger
  rw [matchAt, if_pos allowed, List.findSome?_isSome_iff]
  refine ⟨pattern, mem, ?_⟩
  exact Pattern.run_complete taken (Pattern.run_complete takes rfl)

/-- Whether a rule matches depends on the character before only through its class. -/
theorem matchAt_congr {before' : Option Char} (h : before.all rule.after = true)
    (h' : before'.all rule.after = true) : rule.matchAt before s = rule.matchAt before' s := by
  rw [matchAt, matchAt, if_pos h, if_pos h']

/-- The rewriting of a text: characters are kept where nothing matches, and matches are replaced. -/
inductive Rewrites (rule : Rule) : Option Char → List Char → List Char → Prop
  | done (before : Option Char) : Rewrites rule before [] []
  | keep {before : Option Char} {c : Char} {rest out : List Char}
      (unmatched : rule.matchAt before (c :: rest) = none) (further : Rewrites rule (some c) rest out) :
      Rewrites rule before (c :: rest) (c :: out)
  | replace {before : Option Char} {front rest replacement out : List Char} {last : Char}
      (matched : rule.matchAt before (front ++ last :: rest) = some (front.length + 1, replacement))
      (further : Rewrites rule (some last) rest out) :
      Rewrites rule before (front ++ last :: rest) (replacement ++ out)

theorem applyFrom_skip (front rest : List Char) (last : Char) :
    rule.applyFrom before (front.length + 1) (front ++ last :: rest) =
      rule.applyFrom (some last) 0 rest := by
  induction front generalizing before with
  | nil => rfl
  | cons c front ih => exact ih

theorem taken_bounds (positive : ¬ rule.tail.Takes [])
    (h : rule.matchAt before s = some (taken, replacement)) : 0 < taken ∧ taken ≤ s.length := by
  obtain ⟨_, t, middle, rfl, _, _, h⟩ := matchAt_sound h
  obtain ⟨front, rest, rfl, takes, found⟩ := Pattern.run_sound h
  obtain ⟨rfl, _⟩ := Prod.mk.inj (Option.some.inj found)
  have nonempty : front ≠ [] := by
    rintro rfl
    exact positive takes
  have := List.length_pos_iff.mpr nonempty
  simp only [List.length_append]
  omega

theorem applyFrom_of_unmatched {c : Char} (unmatched : rule.matchAt before (c :: s) = none) :
    rule.applyFrom before 0 (c :: s) = c :: rule.applyFrom (some c) 0 s := by
  rw [applyFrom, unmatched]

theorem applyFrom_of_matched {front rest : List Char} {last : Char}
    (matched : rule.matchAt before (front ++ last :: rest) = some (front.length + 1, replacement)) :
    rule.applyFrom before 0 (front ++ last :: rest) =
      replacement ++ rule.applyFrom (some last) 0 rest := by
  cases front with
  | nil =>
    rw [List.nil_append] at matched ⊢
    rw [applyFrom, matched]
    rfl
  | cons c front =>
    rw [List.cons_append] at matched ⊢
    rw [applyFrom, matched]
    exact congrArg (replacement ++ ·) (applyFrom_skip front rest last)

/-- What is taken ends with a character, after which the search goes on. -/
theorem exists_last_taken (pos : 0 < taken) (le : taken ≤ s.length) :
    ∃ front last rest, s = front ++ last :: rest ∧ front.length + 1 = taken := by
  obtain ⟨k, rfl⟩ := Nat.exists_eq_add_of_lt pos
  have bound : k < s.length := by omega
  refine ⟨s.take k, s[k], s.drop (k + 1), ?_, ?_⟩
  · rw [← List.drop_eq_getElem_cons, List.take_append_drop]
  · rw [List.length_take]
    omega

theorem rewrites_applyFrom (positive : ¬ rule.tail.Takes []) (before : Option Char) (s : List Char) :
    Rewrites rule before s (rule.applyFrom before 0 s) := by
  induction n : s.length using Nat.strongRecOn generalizing before s with
  | ind n ih =>
    subst n
    cases s with
    | nil => exact .done before
    | cons c rest =>
      cases matched : rule.matchAt before (c :: rest) with
      | none =>
        rw [applyFrom_of_unmatched matched]
        exact .keep matched (ih _ (by simp) _ _ rfl)
      | some found =>
        obtain ⟨taken, replacement⟩ := found
        obtain ⟨pos, le⟩ := taken_bounds positive matched
        obtain ⟨front, last, tail, eq, rfl⟩ := exists_last_taken pos le
        have shorter : tail.length < (c :: rest).length := by
          rw [eq, List.length_append, List.length_cons]
          omega
        rw [eq] at matched ⊢
        rw [applyFrom_of_matched matched]
        exact .replace matched (ih _ shorter (some last) tail rfl)

theorem applyFrom_of_taken {taken replacement : List Char} (something : taken ≠ [])
    (matched : rule.matchAt before (taken ++ rest) = some (taken.length, replacement)) :
    ∃ last, rule.applyFrom before 0 (taken ++ rest) =
      replacement ++ rule.applyFrom (some last) 0 rest := by
  obtain ⟨front, last, rfl⟩ : ∃ front last, taken = front ++ [last] :=
    ⟨_, _, (List.dropLast_concat_getLast something).symm⟩
  rw [List.append_assoc, List.length_append] at matched
  rw [List.append_assoc]
  exact ⟨last, applyFrom_of_matched matched⟩

/-- Whether the rule matches nowhere in a stretch of a text. -/
def silentOver (rule : Rule) (before : Option Char) : List Char → List Char → Bool
  | [], _ => true
  | c :: s, rest =>
    (rule.matchAt before (c :: (s ++ rest))).isNone && rule.silentOver (some c) s rest

theorem applyFrom_of_silent (silent : rule.silentOver before s rest = true) :
    rule.applyFrom before 0 (s ++ rest) = s ++ rule.applyFrom (s.getLast?.or before) 0 rest := by
  induction s generalizing before with
  | nil => rfl
  | cons c s ih =>
    rw [silentOver, Bool.and_eq_true, Option.isNone_iff_eq_none] at silent
    obtain ⟨unmatched, silent⟩ := silent
    rw [List.cons_append, applyFrom_of_unmatched unmatched, ih silent, getLast?_cons_or]
    rfl

/-- A character that no piece of a rule takes. -/
def Breaks (rule : Rule) (c : Char) : Prop :=
  ∀ pattern ∈ rule.tail :: rule.triggers, ∀ piece ∈ pattern, piece.accepts c = false

instance (rule : Rule) (c : Char) : Decidable (rule.Breaks c) :=
  inferInstanceAs (Decidable (∀ pattern ∈ rule.tail :: rule.triggers, ∀ piece ∈ pattern,
    piece.accepts c = false))

theorem matchAt_append (breaks : ∀ c ∈ rest.head?, rule.Breaks c) :
    rule.matchAt before (s ++ rest) = rule.matchAt before s := by
  have stops : ∀ pattern ∈ rule.tail :: rule.triggers, ∀ piece ∈ pattern,
      ∀ c ∈ rest.head?, piece.accepts c = false :=
    fun pattern mem piece mem' c first => breaks c first pattern mem piece mem'
  have length : ∀ back : List Char, (s ++ rest).length - (back ++ rest).length =
      s.length - back.length := by
    intro back
    rw [List.length_append, List.length_append, Nat.add_sub_add_right]
  rw [matchAt, matchAt]
  congr 1
  refine findSome?_congr fun trigger mem => ?_
  rw [Pattern.run_append (stops trigger (List.mem_cons_of_mem _ mem))]
  congr 1
  funext middle
  rw [Pattern.run_append (stops rule.tail List.mem_cons_self)]
  simp only [length]
  rw [List.take_append_of_le_length (Nat.sub_le _ _)]

/-- A text is rewritten apart from what follows a character that no match takes. -/
theorem applyFrom_append (positive : ¬ rule.tail.Takes [])
    (breaks : ∀ c ∈ rest.head?, rule.Breaks c) :
    rule.applyFrom before 0 (s ++ rest) =
      rule.applyFrom before 0 s ++ rule.applyFrom (s.getLast?.or before) 0 rest := by
  induction n : s.length using Nat.strongRecOn generalizing before s with
  | ind n ih =>
    subst n
    cases s with
    | nil => rfl
    | cons c s =>
      have alone : rule.matchAt before (c :: s ++ rest) = rule.matchAt before (c :: s) :=
        matchAt_append breaks
      cases matched : rule.matchAt before (c :: s) with
      | none =>
        rw [matched, List.cons_append] at alone
        rw [applyFrom_of_unmatched matched, getLast?_cons_or, List.cons_append,
          applyFrom_of_unmatched alone, ih s.length (by simp) rfl, List.cons_append]
      | some found =>
        obtain ⟨taken, replacement⟩ := found
        obtain ⟨pos, le⟩ := taken_bounds positive matched
        obtain ⟨front, last, back, eq, rfl⟩ := exists_last_taken pos le
        have shorter : back.length < (c :: s).length := by
          rw [eq, List.length_append, List.length_cons]
          omega
        rw [matched] at alone
        rw [eq] at matched alone ⊢
        rw [List.append_assoc, List.cons_append] at alone ⊢
        rw [applyFrom_of_matched matched, applyFrom_of_matched alone, getLast?_append_or,
          ih back.length shorter rfl, List.append_assoc]

end Rule

end StorageController.Redaction
