import StorageController.Proofs.Redaction.Vocabulary
import StorageController.Text.Unicode.Lowercase

namespace StorageController.Text

/-- A character that is its own lower-case form. -/
def isSmall (c : Char) : Bool :=
  c != 'İ' && lowerChar c == c

theorem isSmall_iff {c : Char} : isSmall c = true ↔ c ≠ 'İ' ∧ lowerChar c = c := by
  simp [isSmall]

abbrev Run := Nat × Nat × Nat × Int

/-- The capitals of a run, by their numbers. -/
def Capital (run : Run) (n : Nat) : Prop :=
  run.1 ≤ n ∧ n ≤ run.2.1 ∧ (n - run.1) % run.2.2.1 = 0

/-- The lower-case form of the first capital of a run. -/
def firstForm (run : Run) : Nat :=
  (run.1 + run.2.2.2).toNat

def lastForm (run : Run) : Nat :=
  (run.2.1 + run.2.2.2).toNat

/-- No lower-case form of the one run is a capital of the other: they lie apart, or they alternate. -/
def separate (run other : Run) : Bool :=
  (lastForm run).blt other.1 || other.2.1.blt (firstForm run) ||
    ((run.2.2.1 == 2 || run.1 == run.2.1) && other.2.2.1 == 2 &&
      (firstForm run + other.1) % 2 == 1)

/-- The lower-case forms of a run are characters, none of them an ASCII capital or the dotted one. -/
def ordinary (run : Run) : Bool :=
  Nat.blt 96 (firstForm run) &&
    ((lastForm run).blt 0xd800 || Nat.blt 0xdfff (firstForm run) && (lastForm run).blt 0x110000) &&
    ((lastForm run).blt 0x130 || Nat.blt 0x130 (firstForm run))

theorem separate_of_mem : ∀ run ∈ capitalRuns, ∀ other ∈ capitalRuns, separate run other = true := by
  have all : (capitalRuns.all fun run => capitalRuns.all fun other => separate run other) = true := by
    decide +kernel
  simpa only [List.all_eq_true] using all

theorem ordinary_of_mem : ∀ run ∈ capitalRuns, ordinary run = true := by
  decide +kernel

/-- The form of a capital, by its number: it lies in its run as the capital does. -/
theorem form_of_capital {run : Run} {n : Nat} (mem : run ∈ capitalRuns) (capital : Capital run n) :
    ∃ form : Nat, (form : Int) = n + run.2.2.2 ∧ firstForm run + (n - run.1) = form ∧
      form ≤ lastForm run ∧ 96 < form ∧ form.isValidChar ∧ form ≠ 0x130 := by
  obtain ⟨lower, upper, _⟩ := capital
  have usual := ordinary_of_mem run mem
  simp only [ordinary, firstForm, lastForm, Bool.or_eq_true, Bool.and_eq_true, Nat.blt_eq] at usual ⊢
  refine ⟨(n + run.2.2.2).toNat, ?_⟩
  rw [Nat.isValidChar]
  omega

/-- The form of a capital is no capital itself. -/
theorem not_capital_of_form {run other : Run} {n : Nat} (mem : run ∈ capitalRuns)
    (mem' : other ∈ capitalRuns) (capital : Capital run n) {form : Nat}
    (place : firstForm run + (n - run.1) = form) (bound : form ≤ lastForm run) :
    ¬ Capital other form := by
  obtain ⟨lower, upper, aligned⟩ := capital
  rintro ⟨lower', upper', aligned'⟩
  have separated := separate_of_mem run mem other mem'
  simp only [separate, Bool.or_eq_true, Bool.and_eq_true, Nat.blt_eq, beq_iff_eq] at separated
  rcases separated with (before | behind) | ⟨⟨double | single, double'⟩, odd⟩
  · omega
  · omega
  · rw [double] at aligned
    rw [double'] at aligned'
    omega
  · rw [double'] at aligned'
    omega

theorem toLower_of_le {c : Char} (h : 0x80 ≤ c.toNat) : c.toLower = c := by
  delta Char.toLower
  split
  next capital =>
    have bounds := capital.2
    rw [UInt32.le_iff_toNat_le] at bounds
    change c.toNat ≤ 90 at bounds
    omega
  next => rfl

theorem toNat_ofNat {n : Nat} (h : n.isValidChar) : (Char.ofNat n).toNat = n := by
  rw [Char.ofNat, dif_pos h]
  rfl

/-- The forms of ASCII characters. -/
theorem isSmall_toLower {c : Char} (h : c.toNat < 0x80) : isSmall c.toLower = true := by
  have each : ∀ n < 0x80, isSmall (Char.ofNat n).toLower = true := by decide
  rw [← Char.ofNat_toNat c]
  exact each c.toNat h

theorem lowerChar_cases {c : Char} (h : 0x80 ≤ c.toNat) :
    (∃ run ∈ capitalRuns, Capital run c.toNat ∧
      lowerChar c = Char.ofNat (c.toNat + run.2.2.2).toNat) ∨
    (∀ run ∈ capitalRuns, ¬ Capital run c.toNat) ∧ lowerChar c = c := by
  have reads : ∀ run : Run,
      (decide (run.1 ≤ c.toNat) && decide (c.toNat ≤ run.2.1) &&
        (c.toNat - run.1) % run.2.2.1 == 0) = true ↔ Capital run c.toNat := by
    intro run
    simp [Capital, and_assoc]
  rw [lowerChar, if_neg (by omega)]
  split
  next first last step distance found =>
    refine Or.inl ⟨_, List.mem_of_find?_eq_some found, ?_, rfl⟩
    have passes := List.find?_some found
    exact (reads (first, last, step, distance)).mp passes
  next missing =>
    refine Or.inr ⟨fun run mem capital => ?_, rfl⟩
    exact List.find?_eq_none.mp missing run mem ((reads run).mpr capital)

theorem lowerChar_of_no_capital {c : Char} (h : 0x80 ≤ c.toNat)
    (no : ∀ run ∈ capitalRuns, ¬ Capital run c.toNat) : lowerChar c = c := by
  rcases lowerChar_cases h with ⟨run, mem, capital, _⟩ | ⟨_, eq⟩
  · exact absurd capital (no run mem)
  · exact eq

/-- What is in lower case is small. -/
theorem isSmall_lowerChar {c : Char} (h : c ≠ 'İ') : isSmall (lowerChar c) = true := by
  by_cases ascii : c.toNat < 0x80
  · rw [lowerChar, if_pos ascii]
    exact isSmall_toLower ascii
  rcases lowerChar_cases (Nat.le_of_not_lt ascii) with ⟨run, mem, capital, eq⟩ | ⟨_, eq⟩
  · obtain ⟨form, number, place, bound, above, valid, undotted⟩ := form_of_capital mem capital
    have same : (Char.ofNat form).toNat = form := toNat_ofNat valid
    rw [eq, ← number, Int.toNat_natCast]
    by_cases ascii' : form < 0x80
    · have each : ∀ n < 0x80, 96 < n → isSmall (Char.ofNat n) = true := by decide
      exact each form ascii' above
    · refine isSmall_iff.mpr ⟨fun dotted => undotted ?_, ?_⟩
      · exact same.symm.trans (congrArg Char.toNat dotted)
      · refine lowerChar_of_no_capital (by omega) fun other mem' => ?_
        rw [same]
        exact not_capital_of_form mem mem' capital place bound
  · rw [eq]
    exact isSmall_iff.mpr ⟨h, eq⟩

/-- A text in lower case consists of small characters. -/
theorem isSmall_of_mem_lowerFrom {c : Char} {before s : List Char} (h : c ∈ lowerFrom before s) :
    isSmall c = true := by
  induction s generalizing before with
  | nil => simp [lowerFrom] at h
  | cons first rest ih =>
    rw [lowerFrom] at h
    rcases List.mem_append.mp h with here | later
    · split at here
      · split at here <;> obtain rfl := List.mem_singleton.mp here <;> decide +kernel
      · split at here
        · simp only [List.mem_cons, List.not_mem_nil, or_false] at here
          rcases here with rfl | rfl <;> decide +kernel
        next undotted =>
          obtain rfl := List.mem_singleton.mp here
          exact isSmall_lowerChar undotted
    · exact ih later

theorem toLower_of_isSmall {c : Char} (h : isSmall c = true) : c.toLower = c := by
  by_cases ascii : c.toNat < 0x80
  · have same := (isSmall_iff.mp h).2
    rwa [lowerChar, if_pos ascii] at same
  · exact toLower_of_le (Nat.le_of_not_lt ascii)

/-- Lower case of a text of which all but the ASCII capitals are small. -/
theorem lowerFrom_of_isSmall {part : List Char} (small : ∀ c ∈ part, isSmall c.toLower = true)
    (before rest : List Char) :
    lowerFrom before (part ++ rest) =
      part.map Char.toLower ++ lowerFrom (part.reverse ++ before) rest := by
  induction part generalizing before with
  | nil => rfl
  | cons c part ih =>
    obtain ⟨first, others⟩ := List.forall_mem_cons.mp small
    have noSigma : c ≠ 'Σ' := by
      rintro rfl
      exact absurd first (by decide +kernel)
    have undotted : c ≠ 'İ' := by
      rintro rfl
      exact absurd first (by decide +kernel)
    have form : lowerChar c = c.toLower := by
      by_cases ascii : c.toNat < 0x80
      · rw [lowerChar, if_pos ascii]
      · rw [toLower_of_le (Nat.le_of_not_lt ascii)] at first ⊢
        exact (isSmall_iff.mp first).2
    rw [List.cons_append, lowerFrom, if_neg noSigma, if_neg undotted, form, ih others]
    simp

theorem exists_lowerFrom_append (before s rest : List Char) :
    ∃ front, lowerFrom before (s ++ rest) = front ++ lowerFrom (s.reverse ++ before) rest := by
  induction s generalizing before with
  | nil => exact ⟨[], rfl⟩
  | cons c s ih =>
    obtain ⟨front, eq⟩ := ih (c :: before)
    rw [List.cons_append, lowerFrom, eq, ← List.append_assoc, List.reverse_cons,
      List.append_assoc _ [c] before]
    exact ⟨_, rfl⟩

theorem toList_lower {s : String} (small : ∀ c ∈ s.toList, isSmall c.toLower = true) :
    (lower s).toList = s.toList.map Char.toLower := by
  have eq := lowerFrom_of_isSmall small [] []
  rw [List.append_nil, lowerFrom, List.append_nil] at eq
  rw [lower, String.toList_ofList, eq]

theorem map_toLower {s : List Char} (small : ∀ c ∈ s, isSmall c = true) : s.map Char.toLower = s := by
  rw [List.map_congr_left fun c mem => toLower_of_isSmall (small c mem), List.map_id']

/-- The texts that are their own lower-case form. -/
theorem lower_eq_iff {s : String} : lower s = s ↔ ∀ c ∈ s.toList, isSmall c = true := by
  constructor
  · intro same c mem
    rw [← same, lower, String.toList_ofList] at mem
    exact isSmall_of_mem_lowerFrom mem
  · intro small
    apply String.toList_inj.mp
    rw [toList_lower, map_toLower small]
    intro c mem
    rw [toLower_of_isSmall (small c mem)]
    exact small c mem

/-- A small text that stands somewhere in any ASCII case is there in lower case. -/
theorem infix_lower {part whole : String} (small : ∀ c ∈ part.toList, isSmall c = true)
    (h : part.toList.map Char.toLower <:+: whole.toList.map Char.toLower) :
    part.toList <:+: (lower whole).toList := by
  rw [map_toLower small] at h
  obtain ⟨spelled, ⟨front, rest, eq⟩, same⟩ := List.infix_map_iff.mp h
  have small' : ∀ c ∈ spelled, isSmall c.toLower = true :=
    fun c mem => small _ (same ▸ List.mem_map_of_mem mem)
  obtain ⟨front', split⟩ := exists_lowerFrom_append [] front (spelled ++ rest)
  rw [lower, String.toList_ofList, ← eq, List.append_assoc, split, lowerFrom_of_isSmall small', same]
  exact ⟨front', _, List.append_assoc _ _ _⟩

end StorageController.Text
