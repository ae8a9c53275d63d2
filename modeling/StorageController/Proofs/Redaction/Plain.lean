import StorageController.Proofs.Redaction.Idempotence
import StorageController.Proofs.Text.Hex

namespace StorageController

namespace Redaction

variable {rule : Rule} {v : Vocabulary} {separator value : Char → Bool} {letters s : List Char}

/-- No keyword can be spelled with these letters, as `key` reads them. -/
def Wanting (letters : List Char) (v : Vocabulary) : Prop :=
  ∀ word ∈ v.words, ¬ word ⊆ letters

instance (letters : List Char) (v : Vocabulary) : Decidable (Wanting letters v) :=
  inferInstanceAs (Decidable (∀ word ∈ v.words, ¬ word ⊆ letters))

theorem calm_of_wanting (m : Masking rule v separator value) (wanting : Wanting letters v)
    (only : ∀ c ∈ s, key c ∈ letters) (before : Option Char) : Calm rule before s := by
  induction s generalizing before with
  | nil => exact trivial
  | cons c rest ih =>
    obtain ⟨_, others⟩ := List.forall_mem_cons.mp only
    refine ⟨?_, ih others (some c)⟩
    intro taken replacement matched
    obtain ⟨_, t, middle, more, eq, trigger, _⟩ := Rule.begins_of_matchAt matched
    have spelled : t.map key ⊆ letters := by
      intro letter mem
      obtain ⟨first, inside, rfl⟩ := List.mem_map.mp mem
      have found : first ∈ c :: rest := by
        rw [eq]
        exact List.mem_append_left _ inside
      exact only first found
    exact absurd spelled (wanting _ (m.word t trigger))

/-- A text without the letters of any keyword is not redacted. -/
theorem redact_of_wanting [VisitingOrder] {text : String}
    (wanting : ∀ v ∈ Vocabulary.all, Wanting letters v) (only : ∀ c ∈ text.toList, key c ∈ letters) :
    redact text = text := by
  have sensitive : ∀ name ∈ VisitingOrder.fields, name ∈ sensitiveFields :=
    fun _ mem => VisitingOrder.complete.subset mem
  refine redactWith_of_calm sensitive fun rule mem => ?_
  obtain ⟨v, isKnown⟩ := exists_known sensitive rule mem
  obtain ⟨_, _, m⟩ := isKnown.masking
  exact calm_of_wanting m (wanting v isKnown.mem_all) only none

end Redaction

namespace Text

/-- No keyword of redaction is spelled in hexadecimal digits. -/
theorem redact_hex [Redaction.VisitingOrder] (width n : Nat) :
    Redaction.redact (String.ofList (hex width n)) = String.ofList (hex width n) := by
  have wanting : ∀ v ∈ Redaction.Vocabulary.all, Redaction.Wanting " abcdef".toList v := by
    decide +kernel
  have letters : ∀ d < 16, Redaction.key (Nat.digitChar d) ∈ " abcdef".toList := by decide
  refine Redaction.redact_of_wanting wanting ?_
  intro c mem
  rw [String.toList_ofList] at mem
  obtain ⟨d, small, rfl⟩ := mem_hex mem
  exact letters d small

end Text

end StorageController
