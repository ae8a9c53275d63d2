import StorageController.Text.Hex

namespace StorageController.Text

/-- The number that hexadecimal digits stand for. -/
def hexNumber (digits : List Char) : Nat :=
  digits.foldl (fun n c => 16 * n + (hexValue? c).getD 0) 0

theorem hexNumber_concat (digits : List Char) (c : Char) :
    hexNumber (digits ++ [c]) = 16 * hexNumber digits + (hexValue? c).getD 0 := by
  simp [hexNumber]

theorem hexValue?_digitChar {d : Nat} (small : d < 16) :
    hexValue? (Nat.digitChar d) = some d := by
  have each : ∀ d < 16, hexValue? (Nat.digitChar d) = some d := by decide
  exact each d small

theorem hexNumber_toDigits (n : Nat) : hexNumber (Nat.toDigits 16 n) = n := by
  induction n using Nat.strongRecOn with
  | ind n ih =>
    rw [Nat.toDigits_eq_if (by decide)]
    split
    next small => simp [hexNumber, hexValue?_digitChar small]
    next large =>
      have last : n % 16 < 16 := Nat.mod_lt n (by decide)
      rw [hexNumber_concat, ih (n / 16) (by omega), hexValue?_digitChar last, Option.getD_some]
      omega

theorem hexNumber_zeros (width : Nat) (digits : List Char) :
    hexNumber (List.replicate width '0' ++ digits) = hexNumber digits := by
  induction width with
  | zero => rfl
  | succ width ih => exact ih

/-- The zeros in front do not change the number. -/
theorem hexNumber_hex (width n : Nat) : hexNumber (hex width n) = n := by
  rw [hex, hexNumber_zeros, hexNumber_toDigits]

theorem mem_toDigits {n : Nat} {c : Char} (h : c ∈ Nat.toDigits 16 n) :
    ∃ d < 16, c = Nat.digitChar d := by
  induction n using Nat.strongRecOn with
  | ind n ih =>
    rw [Nat.toDigits_eq_if (by decide)] at h
    split at h
    next small => exact ⟨n, small, List.mem_singleton.mp h⟩
    next large =>
      rcases List.mem_append.mp h with early | last
      · exact ih (n / 16) (by omega) early
      · exact ⟨n % 16, Nat.mod_lt n (by decide), List.mem_singleton.mp last⟩

theorem mem_hex {width n : Nat} {c : Char} (h : c ∈ hex width n) :
    ∃ d < 16, c = Nat.digitChar d := by
  rcases List.mem_append.mp h with zeros | digits
  · exact ⟨0, by decide, List.eq_of_mem_replicate zeros⟩
  · exact mem_toDigits digits

/-- A UTF-16 code unit has four digits. -/
theorem length_hex {n : Nat} (small : n < 0x10000) : (hex 4 n).length = 4 := by
  have fits : (Nat.toDigits 16 n).length ≤ 4 :=
    (Nat.length_toDigits_le_iff (by decide) (by decide)).mpr small
  simp only [hex, List.length_append, List.length_replicate]
  omega

end StorageController.Text
