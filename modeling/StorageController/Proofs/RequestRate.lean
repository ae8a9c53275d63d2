import Mathlib.Algebra.Order.Field.Basic
import Mathlib.Algebra.Order.Ring.Rat
import Mathlib.Data.List.Pairwise
import Mathlib.Tactic.Linarith
import Mathlib.Tactic.NormNum
import Mathlib.Tactic.Ring
import StorageController.Client

namespace StorageController

/-- Points in time, in order, of which each is at least `interval` after all before it. -/
def Spaced (interval : Rat) (times : List Rat) : Prop :=
  times.Pairwise fun earlier later => earlier + interval ≤ later

/-- Points in a stretch of time leave room between them. -/
theorem Spaced.length_mul_le {interval first width : Rat} {times : List Rat}
    (spaced : Spaced interval times) (nonneg : 0 ≤ width) (positive : 0 < interval)
    (inside : ∀ time ∈ times, first ≤ time ∧ time ≤ first + width) :
    times.length * interval ≤ width + interval := by
  induction times generalizing first width with
  | nil =>
    simp only [List.length_nil, Nat.cast_zero, zero_mul]
    linarith
  | cons time later ih =>
    obtain ⟨apart, rest⟩ := List.pairwise_cons.mp spaced
    obtain ⟨⟨after, before⟩, others⟩ := List.forall_mem_cons.mp inside
    have count : ((time :: later).length : Rat) * interval = later.length * interval + interval := by
      rw [List.length_cons]
      push_cast
      ring
    rw [count]
    cases later with
    | nil =>
      simp only [List.length_nil, Nat.cast_zero, zero_mul]
      linarith
    | cons next further =>
      -- What is left of the stretch begins one interval after its first point.
      have start : time + interval ≤ next := apart next List.mem_cons_self
      have finish := (others next List.mem_cons_self).2
      have fewer := @ih (time + interval) (first + width - (time + interval)) rest
        (by linarith) fun point mem => ⟨apart point mem, by linarith [(others point mem).2]⟩
      linarith

theorem Spaced.count_le {rate width : Rat} {times : List Rat} (spaced : Spaced (1 / rate) times)
    (positive : 0 < rate) (nonneg : 0 ≤ width) (first : Rat) :
    ((times.filter fun time => first ≤ time ∧ time ≤ first + width).length : Rat) ≤
      width * rate + 1 := by
  have inside : ∀ time ∈ times.filter fun time => first ≤ time ∧ time ≤ first + width,
      first ≤ time ∧ time ≤ first + width := by
    intro time mem
    simpa using (List.mem_filter.mp mem).2
  have bound := Spaced.length_mul_le (List.Pairwise.filter _ spaced) nonneg
    (one_div_pos.mpr positive) inside
  have scaled := mul_le_mul_of_nonneg_right bound positive.le
  rw [mul_assoc, add_mul, one_div_mul_cancel positive.ne', mul_one] at scaled
  exact scaled

namespace Throttle

variable {rate : Rat}

/-- The wait of a request at `now` for the end of the interval that began at `last`. -/
def remaining (rate last now : Rat) : Option Rat :=
  if last + 1 / rate ≤ now then none else some (last + 1 / rate - now)

theorem wait_of_pos (positive : 0 < rate) (last now : Rat) :
    wait rate last now = .ok (remaining rate last now) := by
  have zero : Duration.isZero rate = false := by
    simpa [Duration.isZero] using positive.ne'
  rw [wait, zero, remaining]
  by_cases late : last + 1 / rate ≤ now
  · have passed : ¬ now - last < 1 / rate := by linarith
    rw [if_pos late]
    exact congrArg Except.ok (if_neg (by simpa [Duration.less] using passed))
  · have early : now - last < 1 / rate := by linarith
    have pause : last + 1 / rate - now = 1 / rate - (now - last) := by ring
    rw [if_neg late, pause]
    exact congrArg Except.ok (if_pos (decide_eq_true early))

/-- A request starts one interval after the one before it or at once, whichever is later. -/
theorem start_of_bearable {longest : Option Rat} (positive : 0 < rate) (t : Throttle Rat)
    (bearable : ∀ limit ∈ longest, ∀ pause ∈ remaining rate t.last t.now, pause ≤ limit) :
    t.start rate longest = .ok (remaining rate t.last t.now,
      ⟨max t.now (t.last + 1 / rate), max t.now (t.last + 1 / rate)⟩) := by
  rw [start, wait_of_pos positive]
  rw [remaining] at bearable ⊢
  by_cases late : t.last + 1 / rate ≤ t.now
  · rw [if_pos late, max_eq_left late]
    rfl
  · rw [if_neg late] at bearable ⊢
    have begun : t.now + (t.last + 1 / rate - t.now) = t.last + 1 / rate := by ring
    have allowed : longest.any (Duration.less · (t.last + 1 / rate - t.now)) = false := by
      cases longest with
      | none => rfl
      | some limit => simpa [Duration.less] using bearable
    rw [max_eq_right (not_le.mp late).le]
    refine (if_neg (by rw [allowed]; decide)).trans ?_
    rw [begun]
    rfl

theorem start_of_pos (positive : 0 < rate) (t : Throttle Rat) :
    t.start rate = .ok (remaining rate t.last t.now,
      ⟨max t.now (t.last + 1 / rate), max t.now (t.last + 1 / rate)⟩) :=
  start_of_bearable positive t (by simp)

/-- The clock moved on between a wait and the request after it. -/
def lag (t : Throttle Rat) (elapsed : Rat) : Throttle Rat :=
  ⟨t.now + elapsed, t.last + elapsed⟩

end Throttle

namespace Client

variable {rate : Rat} {s last : State Rat}

/-- A request as it went: when it was made, how long it waited, and when it started. -/
structure Attempt where
  request : Request
  made : Rat
  wait : Option Rat
  started : Rat

section

variable [Redaction.VisitingOrder]

/-- Requests one after the other. The clock never goes back: it moves on by the waits, and by any
time before each request, and between its wait and its start. A request starts at the reading of the
clock that is kept for the next one: no time passes between the two. -/
inductive Runs (rate : Rat) : State Rat → List Attempt → State Rat → Prop
  | done (s : State Rat) : Runs rate s [] s
  | request {s served last : State Rat} {request : Request} {response : Except Failure Json}
      {exchanged : Exchange Rat} {pause lag : Rat} {rest : List Attempt}
      (pause_nonneg : 0 ≤ pause) (lag_nonneg : 0 ≤ lag)
      (asked : exchange rate { s with throttle := s.throttle.advance pause } request response =
        (exchanged, served))
      (further : Runs rate { served with throttle := served.throttle.lag lag } rest last) :
      Runs rate s
        (⟨request, s.throttle.now + pause, exchanged.wait, served.throttle.last + lag⟩ :: rest) last

/-- Every request is made, however it is answered; the throttle decides when it starts. -/
theorem exchange_of_pos (positive : 0 < rate) (s : State Rat) (request : Request)
    (response : Except Failure Json) :
    exchange rate s request response =
      (⟨response.mapError Failure.fault, some (callFor s.timeout request),
        isTyped request && response.isOk, metricsFor request.operation response,
        Throttle.remaining rate s.throttle.last s.throttle.now⟩,
       ⟨s.timeout, ⟨max s.throttle.now (s.throttle.last + 1 / rate),
        max s.throttle.now (s.throttle.last + 1 / rate)⟩⟩) := by
  rw [exchange, perform, s.throttle.start_of_pos positive]

theorem Runs.uncons {attempt : Attempt} {rest : List Attempt} (positive : 0 < rate)
    (run : Runs rate s (attempt :: rest) last) :
    ∃ next, Runs rate next rest last ∧ next.throttle.last = attempt.started ∧
      s.throttle.last + 1 / rate ≤ attempt.started ∧
      (s.throttle.last + 1 / rate ≤ attempt.made → attempt.wait = none) := by
  cases run with
  | @request _ served _ request response exchanged pause lag _ pause_nonneg lag_nonneg asked further =>
    rw [exchange_of_pos positive] at asked
    obtain ⟨rfl, rfl⟩ := Prod.mk.inj asked
    refine ⟨_, further, rfl, ?_, fun late => if_pos late⟩
    exact (le_max_right _ _).trans (le_add_of_nonneg_right lag_nonneg)

/-- All requests of a run start one interval after the last one before it, and after each other. -/
theorem Runs.spaced {attempts : List Attempt} (positive : 0 < rate)
    (run : Runs rate s attempts last) :
    Spaced (1 / rate) (s.throttle.last :: attempts.map Attempt.started) := by
  induction attempts generalizing s with
  | nil => exact List.pairwise_singleton _ _
  | cons attempt rest ih =>
    obtain ⟨next, further, eq, apart, _⟩ := run.uncons positive
    have later := ih further
    rw [eq] at later
    refine List.pairwise_cons.mpr ⟨?_, later⟩
    intro time mem
    rcases List.mem_cons.mp mem with rfl | mem
    · exact apart
    · have after := (List.pairwise_cons.mp later).1 time mem
      have interval := (one_div_pos.mpr positive).le
      linarith

theorem Runs.drop {front rest : List Attempt} {attempt : Attempt} (positive : 0 < rate)
    (run : Runs rate s (front ++ attempt :: rest) last) :
    ∃ next, Runs rate next rest last ∧ next.throttle.last = attempt.started := by
  induction front generalizing s with
  | nil =>
    obtain ⟨next, further, eq, _⟩ := run.uncons positive
    exact ⟨next, further, eq⟩
  | cons first front ih =>
    obtain ⟨next, further, _⟩ := run.uncons positive
    exact ih further

/-- Requests start one interval apart, a stretch of time holds no more of them than the rate allows,
and one that is made late enough does not wait. -/
theorem request_rate_bounded {start timeout : Rat} {attempts : List Attempt} (positive : 0 < rate)
    (run : Runs rate ⟨timeout, ⟨start, 0⟩⟩ attempts last) :
    (∀ (s : State Rat) request response,
      (exchange rate s request response).1.call = some (callFor s.timeout request)) ∧
    Spaced (1 / rate) (attempts.map Attempt.started) ∧
    (∀ first width, 0 ≤ width →
      (((attempts.map Attempt.started).filter fun time =>
        first ≤ time ∧ time ≤ first + width).length : Rat) ≤ width * rate + 1) ∧
    ∀ front rest earlier attempt, attempts = front ++ earlier :: attempt :: rest →
      earlier.started + 1 / rate ≤ attempt.made → attempt.wait = none := by
  have spaced := (List.pairwise_cons.mp (run.spaced positive)).2
  refine ⟨?_, spaced, fun first width nonneg => Spaced.count_le spaced positive nonneg first, ?_⟩
  · intro s request response
    rw [exchange_of_pos positive]
  · rintro front rest earlier attempt rfl late
    obtain ⟨next, further, eq⟩ := run.drop positive
    obtain ⟨_, _, _, _, unhindered⟩ := further.uncons positive
    exact unhindered (eq.symm ▸ late)

theorem Runs.ask {pause lag : Rat} {rest : List Attempt} (positive : 0 < rate) (request : Request)
    (response : Except Failure Json) (pause_nonneg : 0 ≤ pause) (lag_nonneg : 0 ≤ lag)
    (further : Runs rate
      ⟨s.timeout, ⟨max (s.throttle.now + pause) (s.throttle.last + 1 / rate) + lag,
        max (s.throttle.now + pause) (s.throttle.last + 1 / rate) + lag⟩⟩ rest last) :
    Runs rate s
      (⟨request, s.throttle.now + pause,
        Throttle.remaining rate s.throttle.last (s.throttle.now + pause),
        max (s.throttle.now + pause) (s.throttle.last + 1 / rate) + lag⟩ :: rest) last :=
  .request pause_nonneg lag_nonneg (exchange_of_pos positive _ request response) further

end

open Redaction.TokenFirst in
/-- The second request comes too early and is refused; the third comes late enough. -/
theorem request_rate_bounded_refused :
    ∃ attempts last, 0 < (10 : Rat) ∧ Runs 10 ⟨30, ⟨1000, 0⟩⟩ attempts last ∧
      attempts.map Attempt.wait = [none, some (1 / 10), none] ∧
      attempts.map Attempt.started = [1001, 1001 + 1 / 10, 1003] ∧
      Spaced (1 / 10) (attempts.map Attempt.started) ∧
      (((attempts.map Attempt.started).filter fun time =>
        1001 ≤ time ∧ time ≤ 1001 + 1).length : Rat) ≤ 1 * 10 + 1 := by
  have positive : 0 < (10 : Rat) := by norm_num
  have one : 0 ≤ (1 : Rat) := by norm_num
  have pause : 0 ≤ (9 / 10 : Rat) := by norm_num
  have run : Runs 10 ⟨30, ⟨1000, 0⟩⟩ _ _ :=
    .ask positive (.readStorage "swift" "storage") (.ok (.obj [])) one le_rfl
      (.ask positive (.readSet "swift" "storage") (.error (.status (.int 409) "Conflict"))
        le_rfl le_rfl
        (.ask positive (.createSet "swift" (.obj [])) (.error (.other .overflow)) pause one (.done _)))
  obtain ⟨_, spaced, count, _⟩ := request_rate_bounded positive run
  refine ⟨_, _, positive, run, ?_, ?_, spaced, count 1001 1 (by norm_num)⟩
  · norm_num [Throttle.remaining]
  · norm_num

end Client

end StorageController
