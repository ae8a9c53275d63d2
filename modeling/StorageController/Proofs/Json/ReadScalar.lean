import StorageController.Json.Printer
import StorageController.Json.Reader
import StorageController.Proofs.Text.Hex

namespace StorageController.Json

open Text

variable {seen rest : List Char}

/-- The four digits of a code unit are read as that unit. -/
theorem unit?_hex {n : Nat} (small : n < 0x10000) :
    ∃ a b c d, hex 4 n = [a, b, c, d] ∧ unit? a b c d = some n := by
  obtain ⟨a, b, c, d, digits⟩ : ∃ a b c d, hex 4 n = [a, b, c, d] := by
    match hex 4 n, length_hex small with
    | [a, b, c, d], _ => exact ⟨a, b, c, d, rfl⟩
  have value : ∀ x ∈ hex 4 n, ∃ v, hexValue? x = some v := by
    intro x mem
    obtain ⟨v, bound, rfl⟩ := mem_hex mem
    exact ⟨v, hexValue?_digitChar bound⟩
  have number := hexNumber_hex 4 n
  rw [digits] at value number
  simp only [List.forall_mem_cons] at value
  obtain ⟨⟨w, hw⟩, ⟨x, hx⟩, ⟨y, hy⟩, ⟨z, hz⟩, _⟩ := value
  refine ⟨a, b, c, d, digits, ?_⟩
  simp only [hexNumber, List.foldl_cons, List.foldl_nil, hw, hx, hy, hz, Option.getD_some] at number
  simp only [unit?, hw, hx, hy, hz, Option.bind_eq_bind, Option.bind_some, Option.pure_def,
    Option.some.injEq]
  omega

theorem readString_eq_none {a b c d : Char} (bad : unit? a b c d = none) :
    readString seen ('\\' :: 'u' :: a :: b :: c :: d :: rest) = none := by
  by_cases unit : ∃ e f g h more, rest = '\\' :: 'u' :: e :: f :: g :: h :: more
  · obtain ⟨e, f, g, h, more, rfl⟩ := unit
    rw [readString, bad]
  · rw [readString, bad]
    intro e f g h more eq
    exact unit ⟨e, f, g, h, more, eq⟩

/-- A code unit is a character of its own unless it opens a pair. -/
theorem readString_unit {n : Nat} (small : n < 0x10000) (single : n < 0xd800 ∨ 0xdc00 ≤ n) :
    readString seen (escapeUnit n ++ rest) = readString (Char.ofNat n :: seen) rest := by
  obtain ⟨a, b, c, d, digits, value⟩ := unit?_hex small
  rw [escapeUnit, digits]
  simp only [List.cons_append, List.nil_append]
  by_cases unit : ∃ e f g h more, rest = '\\' :: 'u' :: e :: f :: g :: h :: more
  · obtain ⟨e, f, g, h, more, rfl⟩ := unit
    rw [readString, value]
    cases next : unit? e f g h with
    | none => exact (readString_eq_none next).symm
    | some low =>
      have unpaired : ¬ (0xd800 ≤ n ∧ n < 0xdc00 ∧ 0xdc00 ≤ low ∧ low < 0xe000) := by omega
      exact if_neg unpaired
  · rw [readString, value]
    intro e f g h more eq
    exact unit ⟨e, f, g, h, more, eq⟩

/-- Two code units that make a pair are one character. -/
theorem readString_pair {high low : Nat} (isHigh : 0xd800 ≤ high ∧ high < 0xdc00)
    (isLow : 0xdc00 ≤ low ∧ low < 0xe000) :
    readString seen (escapeUnit high ++ escapeUnit low ++ rest) =
      readString (ofSurrogates high low :: seen) rest := by
  obtain ⟨a, b, c, d, digits, value⟩ := unit?_hex (show high < 0x10000 by omega)
  obtain ⟨e, f, g, h, digits', value'⟩ := unit?_hex (show low < 0x10000 by omega)
  rw [escapeUnit, escapeUnit, digits, digits']
  simp only [List.cons_append, List.nil_append]
  rw [readString, value, value']
  exact if_pos ⟨isHigh.1, isHigh.2, isLow⟩

theorem ofSurrogates_high_low {c : Char} (large : 0x10000 ≤ c.toNat) :
    ofSurrogates (0xd800 + (c.toNat - 0x10000) / 0x400) (0xdc00 + (c.toNat - 0x10000) % 0x400) =
      c := by
  have number : 0x10000 + (0xd800 + (c.toNat - 0x10000) / 0x400 - 0xd800) * 0x400 +
      (0xdc00 + (c.toNat - 0x10000) % 0x400 - 0xdc00) = c.toNat := by omega
  rw [ofSurrogates, number, Char.ofNat_toNat]

/-- The escape of a character is read as that character, whatever follows. -/
theorem readString_escapeChar (c : Char) :
    readString seen (escapeChar c ++ rest) = readString (c :: seen) rest := by
  have valid : c.toNat < 0xd800 ∨ 0xdfff < c.toNat ∧ c.toNat < 0x110000 := c.valid
  fun_cases escapeChar c with
  | case1 quoted => rcases quoted with rfl | rfl <;> simp [readString]
  | case2 _ eq => rw [eq]; rfl
  | case3 _ _ eq => rw [eq]; rfl
  | case4 _ _ _ eq => rw [eq]; rfl
  | case5 _ _ _ _ code =>
    rw [show c = '\x08' from Char.toNat_inj.mp code]
    rfl
  | case6 _ _ _ _ _ code =>
    rw [show c = '\x0c' from Char.toNat_inj.mp code]
    rfl
  | case7 unquoted =>
    rw [List.singleton_append, readString]
    all_goals grind
  | case8 _ _ _ _ _ _ _ small => rw [readString_unit small (by omega), Char.ofNat_toNat]
  | case9 _ _ _ _ _ _ _ large rest =>
    rw [readString_pair (by omega) (by omega), ofSurrogates_high_low (by omega)]

/-- A string is read up to the quote that closes it. -/
theorem readString_body (body : List Char) :
    readString seen (body.flatMap escapeChar ++ '"' :: rest) =
      some (String.ofList (seen.reverse ++ body), rest) := by
  induction body generalizing seen with
  | nil => simp [readString]
  | cons c body ih =>
    rw [List.flatMap_cons, List.append_assoc, readString_escapeChar, ih]
    simp

theorem readString_stringText (s : String) (rest : List Char) :
    ∃ text, stringText s = '"' :: text ∧ readString [] (text ++ rest) = some (s, rest) := by
  refine ⟨s.toList.flatMap escapeChar ++ ['"'], by simp [stringText], ?_⟩
  rw [List.append_assoc, List.singleton_append, readString_body]
  simp

/-- What follows cannot belong to a number before it. -/
def EndsNumber (rest : List Char) : Prop :=
  ∀ c ∈ rest.head?, c.isDigit = false ∧ c ∉ ['.', 'e', 'E']

theorem endsNumber_cons {c : Char} (h : c ∈ [',', ']', '\x7d']) : EndsNumber (c :: rest) := by
  rintro d ⟨⟩
  revert c
  simp

theorem digitSpan_append {digits : List Char} (all : ∀ c ∈ digits, c.isDigit = true)
    (ends : EndsNumber rest) : digitSpan (digits ++ rest) = (digits, rest) := by
  rw [digitSpan, List.takeWhile_append_of_pos all, List.dropWhile_append_of_pos all]
  cases rest with
  | nil => simp
  | cons c rest =>
    have other := (ends c rfl).1
    simp [other]

theorem digitsValue_toDigits (n : Nat) : digitsValue (Nat.toDigits 10 n) = n := by
  have value := Nat.ofDigitChars_ten_toDigits (n := n)
  simp only [Nat.ofDigitChars, Nat.mul_comm 10] at value
  exact value

theorem readExponent_of_ends (ends : EndsNumber rest) : readExponent rest = (none, rest) := by
  cases rest with
  | nil => rfl
  | cons c rest =>
    have other := (ends c rfl).2
    simp only [List.mem_cons, List.not_mem_nil, or_false, not_or] at other
    simp [readExponent, other]

/-- A whole number is read with and without a sign: nothing that a point or an exponent adds to it
stands behind its digits. -/
theorem readNumber_digits {digits : List Char} (inhabited : digits ≠ [])
    (all : ∀ c ∈ digits, c.isDigit = true) (ends : EndsNumber rest) :
    readNumber (digits ++ rest) = some (.int (digitsValue digits), rest) ∧
      readNumber ('-' :: digits ++ rest) = some (.int (-digitsValue digits), rest) := by
  have span := digitSpan_append all ends
  have noPoint : ∀ more, rest ≠ '.' :: more := by
    rintro more rfl
    simp [EndsNumber] at ends
  have noSign : ∀ more, digits ++ rest ≠ '-' :: more := by
    intro more eq
    obtain ⟨first, others, rfl⟩ := List.exists_cons_of_ne_nil inhabited
    obtain ⟨rfl, _⟩ := List.cons.inj eq
    exact absurd (all '-' List.mem_cons_self) (by decide)
  have whole : digits.isEmpty = false := by simpa using inhabited
  constructor
  · simp [readNumber, span, readExponent_of_ends ends, ofParts, whole]
  · simp [readNumber, span, readExponent_of_ends ends, ofParts, whole]

/-- A number without a point is read up to what cannot belong to it. -/
theorem readNumber_intText (n : Int) (ends : EndsNumber rest) :
    readNumber (intText n ++ rest) = some (.int n, rest) := by
  have all : ∀ c ∈ Nat.toDigits 10 n.natAbs, c.isDigit = true := fun c mem =>
    Nat.isDigit_of_mem_toDigits (by decide) (by decide) mem
  obtain ⟨plain, signed⟩ := readNumber_digits Nat.toDigits_ne_nil all ends
  rw [digitsValue_toDigits] at plain signed
  unfold intText
  split
  next negative =>
    have value : -(n.natAbs : Int) = n := by omega
    rw [signed, value]
  next =>
    have value : (n.natAbs : Int) = n := by omega
    rw [plain, value]

theorem exists_intText_eq_cons (n : Int) :
    ∃ c text, intText n = c :: text ∧ (c = '-' ∨ c.isDigit = true) := by
  unfold intText
  split
  · exact ⟨_, _, rfl, Or.inl rfl⟩
  · have inhabited : Nat.toDigits 10 n.natAbs ≠ [] := Nat.toDigits_ne_nil
    obtain ⟨c, text, digits⟩ := List.exists_cons_of_ne_nil inhabited
    refine ⟨c, text, digits, Or.inr ?_⟩
    exact Nat.isDigit_of_mem_toDigits (by decide) (by decide) (digits ▸ List.mem_cons_self)

end StorageController.Json
