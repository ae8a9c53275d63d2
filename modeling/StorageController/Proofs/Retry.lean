import Mathlib.Algebra.Order.Ring.Rat
import Mathlib.Data.Int.ConditionallyCompleteOrder
import Mathlib.Order.ConditionallyCompleteLattice.Basic
import StorageController.Dispatch

namespace StorageController

namespace Settings

variable {s : Settings Rat} {retry : Int}

/-- Settings under which delays grow from the least to the greatest. -/
structure Paced (s : Settings Rat) : Prop where
  nonneg : 0 ≤ s.minRetryDelay
  grows : 1 ≤ s.retryBackoff
  capped : s.minRetryDelay ≤ s.maxRetryDelay

/-- The delay before a retry, were all numbers at hand. -/
def cappedDelay (s : Settings Rat) (retry : Int) : Rat :=
  min s.maxRetryDelay (s.minRetryDelay * s.retryBackoff ^ (max retry 0).toNat)

/-- The retry and the growth that belongs to it are within the range of floating-point numbers. -/
def InRange (s : Settings Rat) (retry : Int) : Prop :=
  ((max retry 0).toNat : Rat) ≤ Duration.largest ∧
    s.retryBackoff ^ (max retry 0).toNat ≤ Duration.largest

theorem least_eq_min (x y : Rat) : Duration.least x y = min y x := by
  by_cases h : y < x
  · rw [min_eq_left h.le]
    exact if_pos (decide_eq_true h)
  · rw [min_eq_right (not_lt.mp h)]
    exact if_neg (by simpa [Duration.less] using h)

theorem neg_largest_le_pow {x : Rat} (h : 1 ≤ x) (n : Nat) : -Duration.largest ≤ x ^ n := by
  have negative : -Duration.largest ≤ 1 := by decide +kernel
  exact negative.trans (one_le_pow₀ h)

theorem power?_rat (x : Rat) (n : Nat) : Duration.power? x n = Duration.ratPower? x n := rfl

theorem backoffDelay_of_inRange (grows : 1 ≤ s.retryBackoff) (h : s.InRange retry) :
    s.backoffDelay retry = .ok (s.cappedDelay retry) := by
  have exponent : retry.toNat = (max retry 0).toNat := by omega
  have power : Duration.power? s.retryBackoff (max retry 0).toNat =
      some (s.retryBackoff ^ (max retry 0).toNat) := by
    rw [power?_rat, Duration.ratPower?, if_pos ⟨h.1, neg_largest_le_pow grows _, h.2⟩]
  rw [backoffDelay, exponent, power]
  exact congrArg Except.ok (least_eq_min _ _)

theorem backoffDelay_of_not_inRange (h : ¬ s.InRange retry) :
    s.backoffDelay retry = .error .overflow := by
  have exponent : retry.toNat = (max retry 0).toNat := by omega
  have power : Duration.power? s.retryBackoff (max retry 0).toNat = none := by
    rw [power?_rat, Duration.ratPower?, if_neg fun inside => h ⟨inside.1, inside.2.2⟩]
  rw [backoffDelay, exponent, power]

theorem minRetryDelay_le_cappedDelay (paced : s.Paced) (retry : Int) :
    s.minRetryDelay ≤ s.cappedDelay retry := by
  refine le_min paced.capped ?_
  exact le_mul_of_one_le_right paced.nonneg (one_le_pow₀ paced.grows)

theorem cappedDelay_monotone (paced : s.Paced) : Monotone s.cappedDelay := by
  intro retry later h
  have exponent : (max retry 0).toNat ≤ (max later 0).toNat := by omega
  have power := pow_le_pow_right₀ paced.grows exponent
  exact min_le_min_left _ (mul_le_mul_of_nonneg_left power paced.nonneg)

end Settings

namespace Dispatcher

section

variable [Redaction.VisitingOrder]

theorem carryOut_requeueError (d : Dispatcher Rat) (fault : Option Fault) {retry : Int}
    {delay : Except Fault Rat} (h : d.settings.backoffDelay retry = delay) :
    d.carryOut (.requeueError fault) retry =
      delay.map (.again ((fault.map Redaction.redactFault).getD "Reconciliation failed")) := by
  rw [carryOut, h]
  cases delay <;> rfl

/-- How directives are carried out. Only the end of the work is not handled again; after an error the
delay is the capped one, as long as the growth can be computed, and an overflow from there on. -/
theorem carryOut_retries (d : Dispatcher Rat) (paced : d.settings.Paced) :
    (∀ directive retry, d.carryOut directive retry = .ok .finished ↔ directive = .done) ∧
    (∀ delay retry,
      d.carryOut (.requeueAfter delay) retry = .ok (.again "Requeue requested" delay)) ∧
    (∀ fault retry, d.settings.InRange retry →
      d.carryOut (.requeueError fault) retry =
        .ok (.again ((fault.map Redaction.redactFault).getD "Reconciliation failed")
          (d.settings.cappedDelay retry))) ∧
    (∀ fault retry, ¬ d.settings.InRange retry →
      d.carryOut (.requeueError fault) retry = .error .overflow) ∧
    (∀ retry, d.settings.minRetryDelay ≤ d.settings.cappedDelay retry ∧
      d.settings.cappedDelay retry ≤ d.settings.maxRetryDelay) ∧
    Monotone d.settings.cappedDelay := by
  have computed : ∀ fault retry, d.settings.InRange retry →
      d.carryOut (.requeueError fault) retry =
        .ok (.again ((fault.map Redaction.redactFault).getD "Reconciliation failed")
          (d.settings.cappedDelay retry)) := by
    intro fault retry h
    exact d.carryOut_requeueError fault (Settings.backoffDelay_of_inRange paced.grows h)
  have overflow : ∀ fault retry, ¬ d.settings.InRange retry →
      d.carryOut (.requeueError fault) retry = .error .overflow := by
    intro fault retry h
    exact d.carryOut_requeueError fault (Settings.backoffDelay_of_not_inRange h)
  refine ⟨?_, fun _ _ => rfl, computed, overflow,
    fun retry => ⟨Settings.minRetryDelay_le_cappedDelay paced retry, min_le_left _ _⟩,
    Settings.cappedDelay_monotone paced⟩
  intro directive retry
  cases directive with
  | done => exact ⟨fun _ => rfl, fun _ => rfl⟩
  | requeueAfter delay => simp [carryOut]
  | requeueError fault =>
    by_cases h : d.settings.InRange retry
    · simp [computed fault retry h]
    · simp [overflow fault retry h]

end

open Redaction.TokenFirst in
theorem carryOut_retries_default :
    let s : Settings Rat := ⟨8080, 30, 4, 1, 60, 2, 0, 300, ""⟩
    let d : Dispatcher Rat := { settings := s }
    s.Paced ∧ s.InRange 5 ∧
      d.carryOut (.requeueError (some (.operator "down"))) 5 =
        .ok (.again (Redaction.redactFault (.operator "down")) 32) := by
  intro s d
  have paced : s.Paced := ⟨by decide, by decide, by decide⟩
  have inside : s.InRange 5 := by
    constructor <;> decide +kernel
  refine ⟨paced, inside, ?_⟩
  have capped : s.cappedDelay 5 = 32 := by decide +kernel
  rw [← capped]
  exact (carryOut_retries d paced).2.2.1 (some (.operator "down")) 5 inside

open Redaction.TokenFirst in
/-- After enough retries an error ends in an overflow instead of the greatest delay. -/
theorem carryOut_overflows :
    let s : Settings Rat := ⟨8080, 30, 4, 1, 60, 2, 0, 300, ""⟩
    let d : Dispatcher Rat := { settings := s }
    s.Paced ∧ d.carryOut (.requeueError none) 1024 = .error .overflow := by
  intro s d
  refine ⟨⟨by decide, by decide, by decide⟩, ?_⟩
  have outside : ¬ s.InRange 1024 := by
    intro inside
    exact absurd inside.2 (by decide +kernel)
  exact d.carryOut_requeueError none (Settings.backoffDelay_of_not_inRange outside)

end Dispatcher

end StorageController
