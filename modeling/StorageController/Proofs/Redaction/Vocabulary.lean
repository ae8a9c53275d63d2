import StorageController.Redaction.Message
import StorageController.Proofs.Redaction.Pattern

namespace StorageController.Redaction

open Text

/-- The small form of a letter that the keywords know, in any case; a blank for anything else. -/
def key (c : Char) : Char :=
  if c.toNat = 0x130 ∨ c.toNat = 0x131 then 'i'
  else if c.toNat = 0x17f then 's'
  else if c.toNat = 0x212a then 'k'
  else if c.isAlpha then c.toLower
  else ' '

theorem isAlpha_iff {c : Char} : c.isAlpha = true ↔
    (65 ≤ c.toNat ∧ c.toNat ≤ 90) ∨ (97 ≤ c.toNat ∧ c.toNat ≤ 122) := by
  delta Char.isAlpha Char.isUpper Char.isLower
  simp [UInt32.le_iff_toNat_le]

theorem isAlpha_of_toLower {c : Char} (h : c.toLower.isLower = true) : c.isAlpha = true := by
  delta Char.toLower Char.isLower Char.isAlpha Char.isUpper at *
  split at h <;> grind

theorem key_of_isAlpha {c : Char} (h : c.isAlpha = true) : key c = c.toLower := by
  have bounds := isAlpha_iff.mp h
  rw [key, if_neg (by omega), if_neg (by omega), if_neg (by omega), if_pos h]

theorem key_of_foldsTo {letter c : Char} (small : letter.isLower = true)
    (h : foldsTo letter c = true) : key c = letter := by
  simp only [foldsTo, Bool.or_eq_true, Bool.and_eq_true, beq_iff_eq] at h
  rcases h with ((rfl | ⟨rfl, rfl | rfl⟩) | ⟨rfl, kelvin⟩) | ⟨rfl, rfl⟩
  · exact key_of_isAlpha (isAlpha_of_toLower small)
  · rfl
  · rfl
  · rw [key, kelvin]
    rfl
  · rfl

theorem range_of_key {c : Char} (h : key c ≠ ' ') :
    c.isAlpha = true ∨ c.toNat = 0x130 ∨ c.toNat = 0x131 ∨ c.toNat = 0x17f ∨ c.toNat = 0x212a := by
  grind [key]

theorem isBlank_of_key {c : Char} (h : key c ≠ ' ') : isBlank c = false := by
  have range := range_of_key h
  rw [isAlpha_iff] at range
  simp only [isBlank, Bool.or_eq_false_iff, Bool.and_eq_false_iff, beq_eq_false_iff_ne,
    decide_eq_false_iff_not]
  omega

theorem key_of_isBlank {c : Char} (h : isBlank c = true) : key c = ' ' := by
  refine Decidable.byContradiction fun letter => ?_
  simp [isBlank_of_key letter] at h

theorem key_of_isColon {c : Char} (h : isColon c = true) : key c = ' ' := by
  rcases Bool.or_eq_true_iff.mp h with blank | colon
  · exact key_of_isBlank blank
  · rw [beq_iff_eq.mp colon]
    rfl

theorem key_of_isAssignment {c : Char} (h : isAssignment c = true) : key c = ' ' := by
  rcases Bool.or_eq_true_iff.mp h with colon | equals
  · exact key_of_isColon colon
  · rw [beq_iff_eq.mp equals]
    rfl

theorem key_of_isJoint {c : Char} (h : isJoint c = true) : key c = ' ' := by
  simp only [isJoint, Bool.or_eq_true, beq_iff_eq] at h
  rcases h with (blank | rfl) | rfl
  · exact key_of_isBlank blank
  · rfl
  · rfl

theorem isValueChar_of_key {c : Char} (h : key c ≠ ' ') : isValueChar c = true := by
  have marks : c ≠ ',' ∧ c ≠ ';' ∧ c ≠ ')' := by
    refine ⟨?_, ?_, ?_⟩ <;> rintro rfl <;> exact h rfl
  simp [isValueChar, isBlank_of_key h, marks]

theorem key_of_stop {c : Char} (h : isValueChar c = false) : key c = ' ' := by
  refine Decidable.byContradiction fun letter => ?_
  simp [isValueChar_of_key letter] at h

theorem isTokenChar_of_key {c : Char} (h : key c ≠ ' ') : isTokenChar c = true := by
  rcases range_of_key h with alpha | i | i | s | k
  · simp [isTokenChar, Char.isAlphanum, alpha]
  · obtain rfl : c = 'İ' := Char.ext (UInt32.toNat.inj i)
    rfl
  · obtain rfl : c = 'ı' := Char.ext (UInt32.toNat.inj i)
    rfl
  · obtain rfl : c = 'ſ' := Char.ext (UInt32.toNat.inj s)
    rfl
  · simp [isTokenChar, k]

theorem key_ne_blank {c : Char} (h : c.isAlpha = true) : key c ≠ ' ' := by
  have each : ∀ n < 123, (Char.ofNat n).isAlpha = true → key (Char.ofNat n) ≠ ' ' := by decide
  have bounds := isAlpha_iff.mp h
  rw [← Char.ofNat_toNat c] at h ⊢
  exact each c.toNat (by omega) h

theorem isDigit_iff {c : Char} : c.isDigit = true ↔ 48 ≤ c.toNat ∧ c.toNat ≤ 57 := by
  delta Char.isDigit
  simp [UInt32.le_iff_toNat_le]

theorem isValueChar_of_isDigit {c : Char} (h : c.isDigit = true) : isValueChar c = true := by
  have bounds := isDigit_iff.mp h
  have noBlank : isBlank c = false := by
    simp only [isBlank, Bool.or_eq_false_iff, Bool.and_eq_false_iff, beq_eq_false_iff_ne,
      decide_eq_false_iff_not]
    omega
  have marks : c ≠ ',' ∧ c ≠ ';' ∧ c ≠ ')' := by
    refine ⟨?_, ?_, ?_⟩ <;> rintro rfl <;> cases h
  simp [isValueChar, noBlank, marks]

theorem key_of_isDigit {c : Char} (h : c.isDigit = true) : key c = ' ' := by
  have bounds := isDigit_iff.mp h
  refine Decidable.byContradiction fun letter => ?_
  have range := range_of_key letter
  rw [isAlpha_iff] at range
  omega

/-- An ASCII letter is read in its small form. -/
theorem key_eq_toLower {c : Char} (h : c.isAlphanum = true) (letter : key c ≠ ' ') :
    key c = c.toLower := by
  rcases Bool.or_eq_true_iff.mp h with alpha | digit
  · exact key_of_isAlpha alpha
  · exact absurd (key_of_isDigit digit) letter

theorem isValueChar_of_isAlphanum {c : Char} (h : c.isAlphanum = true) : isValueChar c = true := by
  rcases Bool.or_eq_true_iff.mp h with alpha | digit
  · exact isValueChar_of_key (key_ne_blank alpha)
  · exact isValueChar_of_isDigit digit

theorem isValueChar_of_isTokenChar {c : Char} (h : isTokenChar c = true) : isValueChar c = true := by
  by_cases letter : key c = ' '
  · simp only [isTokenChar, Bool.or_eq_true, beq_iff_eq] at h
    rcases h with (((((((((alnum | rfl) | rfl) | rfl) | rfl) | rfl) | rfl) | rfl) | rfl) | rfl) | kelvin
    · exact isValueChar_of_isAlphanum alnum
    all_goals first | rfl | skip
    refine absurd letter ?_
    simp [key, kelvin]
  · exact isValueChar_of_key letter

theorem isWord_of_key {c : Char} (h : key c ≠ ' ') : isWord c = true := by
  rcases range_of_key h with alpha | i | i | s | k
  · have bounds := isAlpha_iff.mp alpha
    rw [isWord, if_pos (by omega), Char.isAlphanum, alpha]
    rfl
  · rw [isWord, if_neg (by omega), i]
    decide
  · rw [isWord, if_neg (by omega), i]
    decide
  · rw [isWord, if_neg (by omega), s]
    decide
  · rw [isWord, if_neg (by omega), k]
    decide +kernel

/-- The keywords of a rule, and what stands between a keyword and the mask in its place, as they are
read by `key`. -/
structure Vocabulary where
  words : List (List Char)
  joint : List Char
deriving DecidableEq

namespace Vocabulary

def masked (v : Vocabulary) (word : List Char) : List Char :=
  word ++ (v.joint ++ " redacted ".toList)

def bearer : Vocabulary := ⟨["bearer".toList], [' ']⟩

def authorization : Vocabulary := ⟨["authorization".toList], [' ']⟩

/-- The keyword of client data of a kind, with and without its two joints. -/
def clientWords (kind : String) : List (List Char) :=
  ["client".toList, "client ".toList].flatMap fun first =>
    ["data".toList, " data".toList].map fun last => first ++ (kind.toList ++ last)

def clientData : Vocabulary := ⟨clientWords "certificate" ++ clientWords "key", [' ']⟩

def field (name : String) : Vocabulary := ⟨[name.toList], [' ', ' ']⟩

def all : List Vocabulary :=
  [bearer, authorization, clientData] ++ sensitiveFields.map field

end Vocabulary

def Meets (xs ys : List Char) : Prop :=
  xs <+: ys ∨ ys <+: xs

instance (xs ys : List Char) : Decidable (Meets xs ys) :=
  inferInstanceAs (Decidable (_ ∨ _))

namespace Vocabulary

/-- No word of the one begins inside a masked word of the other, from a place on. -/
def Outside (first : Nat) (v w : Vocabulary) : Prop :=
  ∀ x ∈ v.words, ∀ y ∈ w.words, ∀ k < (w.masked y).length, first ≤ k →
    ¬ Meets x ((w.masked y).drop k)

/-- A word of the one that begins before a masked word of the other and reaches into it has but its
last letter in it, and there the other goes on with a letter. -/
def Touches (v w : Vocabulary) : Prop :=
  ∀ x ∈ v.words, ∀ y ∈ w.words, ∀ k < x.length, 0 < k → Meets (x.drop k) (w.masked y) →
    (x.drop k).length = 1 ∧ ((w.masked y).drop 1).head? ≠ some ' '

/-- The words of a vocabulary are told apart by how they begin, and they begin with letters. -/
def Distinct (v : Vocabulary) : Prop :=
  ∀ x ∈ v.words, x.head?.any (· != ' ') = true ∧ ∀ y ∈ v.words, Meets x (v.masked y) → x = y

instance (first : Nat) (v w : Vocabulary) : Decidable (v.Outside first w) :=
  inferInstanceAs (Decidable (∀ x ∈ v.words, ∀ y ∈ w.words, ∀ k < (w.masked y).length, first ≤ k →
    ¬ Meets x ((w.masked y).drop k)))

instance (v w : Vocabulary) : Decidable (v.Touches w) :=
  inferInstanceAs (Decidable (∀ x ∈ v.words, ∀ y ∈ w.words, ∀ k < x.length, 0 < k →
    Meets (x.drop k) (w.masked y) →
      (x.drop k).length = 1 ∧ ((w.masked y).drop 1).head? ≠ some ' '))

instance (v : Vocabulary) : Decidable v.Distinct :=
  inferInstanceAs (Decidable (∀ x ∈ v.words, x.head?.any (· != ' ') = true ∧
    ∀ y ∈ v.words, Meets x (v.masked y) → x = y))

theorem distinct : ∀ v ∈ all, v.Distinct := by
  decide +kernel

theorem outside_touches : ∀ v ∈ all, ∀ w ∈ all, v.Outside 1 w ∧ v.Touches w := by
  decide +kernel

theorem outside : ∀ v ∈ all, ∀ w ∈ all, v ≠ w → v.Outside 0 w := by
  decide +kernel

end Vocabulary

end StorageController.Redaction
