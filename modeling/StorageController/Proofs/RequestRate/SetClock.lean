import Mathlib.Algebra.BigOperators.Group.List.Basic
import StorageController.Proofs.RequestRate

namespace StorageController.Client

variable {rate : Rat}

/-- A request, its response, and what the clock reads when it is made and when it has waited. -/
structure Occasion where
  request : Request
  response : Except Failure Json
  made : Rat
  started : Rat

section

variable [Redaction.VisitingOrder]

/-- How long each of the requests waits. The readings of the clock are whatever they are. -/
def waits (rate : Rat) : State Rat → List Occasion → List (Option Rat)
  | _, [] => []
  | s, occasion :: rest =>
    let asked := exchange rate { s with throttle := ⟨occasion.made, s.throttle.last⟩ }
      occasion.request occasion.response
    asked.1.wait ::
      waits rate { asked.2 with throttle := ⟨occasion.started, occasion.started⟩ } rest

/-- How far the clock is behind the start of the request before, when each request is made. -/
def setBacks : Rat → List Occasion → List Rat
  | _, [] => []
  | last, occasion :: rest =>
    max 0 (last - occasion.made) :: setBacks occasion.started rest

/-- A wait is no longer than the interval and what the clock was set back, and not shorter either if it
was. -/
def Waited (rate : Rat) (wait : Option Rat) (back : Rat) : Prop :=
  (∀ pause, wait = some pause → 0 < pause ∧ pause ≤ 1 / rate + back) ∧
    (0 < back → wait = some (1 / rate + back))

theorem waits_cons (positive : 0 < rate) (s : State Rat) (occasion : Occasion)
    (rest : List Occasion) :
    waits rate s (occasion :: rest) =
      Throttle.remaining rate s.throttle.last occasion.made ::
        waits rate ⟨s.timeout, ⟨occasion.started, occasion.started⟩⟩ rest := by
  rw [waits, exchange_of_pos positive]

omit [Redaction.VisitingOrder] in
theorem waited_remaining (positive : 0 < rate) (last made : Rat) :
    Waited rate (Throttle.remaining rate last made) (max 0 (last - made)) := by
  have interval := one_div_pos.mpr positive
  rw [Throttle.remaining]
  by_cases late : last + 1 / rate ≤ made
  · have ahead : max 0 (last - made) = 0 := max_eq_left (by linarith)
    rw [if_pos late, ahead]
    refine ⟨fun pause asked => ?_, fun back => absurd back (lt_irrefl 0)⟩
    cases asked
  · rw [if_neg late]
    refine ⟨fun pause asked => ?_, fun back => ?_⟩
    · cases asked
      have bound := le_max_right 0 (last - made)
      exact ⟨by linarith, by linarith⟩
    · have behind := ((lt_max_iff.mp back).resolve_left (lt_irrefl 0)).le
      rw [max_eq_right behind]
      congr 1
      ring

/-- Every request waits by what the clock was set back since the one before. -/
theorem waited_waits (positive : 0 < rate) (s : State Rat) (occasions : List Occasion) :
    List.Forall₂ (Waited rate) (waits rate s occasions) (setBacks s.throttle.last occasions) := by
  induction occasions generalizing s with
  | nil => exact .nil
  | cons occasion rest ih =>
    rw [waits_cons positive, setBacks]
    exact .cons (waited_remaining positive _ _) (ih _)

omit [Redaction.VisitingOrder] in
theorem setBacks_nonneg (last : Rat) (occasions : List Occasion) :
    ∀ back ∈ setBacks last occasions, 0 ≤ back := by
  induction occasions generalizing last with
  | nil => exact List.forall_mem_nil _
  | cons occasion rest ih => exact List.forall_mem_cons.mpr ⟨le_max_left _ _, ih _⟩

omit [Redaction.VisitingOrder] in
/-- No wait exceeds the interval exactly if the clock was never set back. -/
theorem le_interval_iff {waits : List (Option Rat)} {backs : List Rat}
    (waited : List.Forall₂ (Waited rate) waits backs) (nonneg : ∀ back ∈ backs, 0 ≤ back) :
    (∀ wait ∈ waits, ∀ pause, wait = some pause → pause ≤ 1 / rate) ↔ ∀ back ∈ backs, back = 0 := by
  induction waited with
  | nil => simp
  | @cons wait back waits backs first _ ih =>
    obtain ⟨least, others⟩ := List.forall_mem_cons.mp nonneg
    rw [List.forall_mem_cons, List.forall_mem_cons, ih others]
    refine and_congr_left fun _ => ⟨fun within => ?_, ?_⟩
    · refine Decidable.byContradiction fun moved => ?_
      have behind : 0 < back := lt_of_le_of_ne least (Ne.symm moved)
      have bound := within _ (first.2 behind)
      linarith
    · rintro rfl pause asked
      simpa using (first.1 pause asked).2

omit [Redaction.VisitingOrder] in
/-- All waits together are no longer than an interval each and all that the clock was set back. -/
theorem sum_waits_le {waits : List (Option Rat)} {backs : List Rat} (positive : 0 < rate)
    (waited : List.Forall₂ (Waited rate) waits backs) (nonneg : ∀ back ∈ backs, 0 ≤ back) :
    (waits.map fun wait => wait.getD 0).sum ≤ backs.length * (1 / rate) + backs.sum := by
  have interval := one_div_pos.mpr positive
  induction waited with
  | nil => simp
  | @cons wait back waits backs first _ ih =>
    obtain ⟨least, others⟩ := List.forall_mem_cons.mp nonneg
    have bound : wait.getD 0 ≤ 1 / rate + back := by
      cases wait with
      | none => exact add_nonneg interval.le least
      | some pause => exact (first.1 pause rfl).2
    have total := ih others
    rw [List.map_cons, List.sum_cons, List.sum_cons, List.length_cons]
    push_cast
    linarith

omit [Redaction.VisitingOrder] in
theorem length_setBacks (last : Rat) (occasions : List Occasion) :
    (setBacks last occasions).length = occasions.length := by
  induction occasions generalizing last with
  | nil => rfl
  | cons occasion rest ih => exact congrArg Nat.succ (ih _)

/-- Whatever the clock reads, each wait is within the interval and what the clock was set back, and all
waits are within the interval exactly if it was never set back. -/
theorem waits_under_set_clock (positive : 0 < rate) (s : State Rat) (occasions : List Occasion) :
    List.Forall₂ (Waited rate) (waits rate s occasions) (setBacks s.throttle.last occasions) ∧
    ((∀ wait ∈ waits rate s occasions, ∀ pause, wait = some pause → pause ≤ 1 / rate) ↔
      ∀ back ∈ setBacks s.throttle.last occasions, back = 0) ∧
    ((waits rate s occasions).map fun wait => wait.getD 0).sum ≤
      occasions.length * (1 / rate) + (setBacks s.throttle.last occasions).sum := by
  have waited := waited_waits positive s occasions
  have nonneg := setBacks_nonneg s.throttle.last occasions
  refine ⟨waited, le_interval_iff waited nonneg, ?_⟩
  rw [← length_setBacks s.throttle.last]
  exact sum_waits_le positive waited nonneg

end

open Redaction.TokenFirst in
/-- The clock is set back by a second before the second request, and forward before the third. -/
theorem waits_under_set_clock_hastened :
    0 < (10 : Rat) ∧ ∃ first third,
      waits 10 ⟨30, ⟨0, 0⟩⟩
        [⟨.readStorage "swift" "storage", .ok (.obj []), 100, 100⟩,
          ⟨.readSet "swift" "storage", .error (.other .overflow), 99, 100 + 1 / 10⟩,
          ⟨.readSet "swift" "storage", .ok (.obj []), 500, 500⟩] =
        [first, some (1 / 10 + 1), third] := by
  have positive : 0 < (10 : Rat) := by norm_num
  have waited := (waits_under_set_clock positive ⟨30, ⟨0, 0⟩⟩
    [⟨.readStorage "swift" "storage", .ok (.obj []), 100, 100⟩,
      ⟨.readSet "swift" "storage", .error (.other .overflow), 99, 100 + 1 / 10⟩,
      ⟨.readSet "swift" "storage", .ok (.obj []), 500, 500⟩]).1
  refine ⟨positive, ?_⟩
  have behind : max 0 (100 - 99) = (1 : Rat) := by norm_num
  generalize waits _ _ _ = paused at waited ⊢
  rw [setBacks, setBacks, setBacks, setBacks, behind] at waited
  rcases waited with _ | ⟨_, _ | ⟨second, _ | ⟨_, ⟨⟩⟩⟩⟩
  rw [second.2 one_pos]
  exact ⟨_, _, rfl⟩

open Redaction.TokenFirst in
/-- A clock that is set back by a minute keeps the next request waiting for as long. -/
theorem wait_exceeds_interval :
    some (1 / 10 + 60) ∈ waits 10 ⟨30, ⟨100, 0⟩⟩
        [⟨.readStorage "swift" "storage", .ok (.obj []), 100, 100⟩,
          ⟨.readSet "swift" "storage", .ok (.obj []), 40, 100 + 1 / 10⟩] ∧
      ¬ (1 / 10 + 60 : Rat) ≤ 1 / 10 := by
  have positive : 0 < (10 : Rat) := by norm_num
  rw [waits_cons positive, waits_cons positive]
  norm_num [Throttle.remaining]

end StorageController.Client
