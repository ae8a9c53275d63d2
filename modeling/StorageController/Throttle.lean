import StorageController.Duration
import StorageController.Fault

namespace StorageController

/-- The time, and the time of the last request. -/
structure Throttle (δ : Type) where
  now : δ
  last : δ

namespace Throttle

variable {δ : Type} [Duration δ]

/-- How long a request at `now` has to wait after one at `last`, if at all. -/
def wait (rate last now : δ) : Except Fault (Option δ) :=
  if Duration.isZero rate then .error .divisionByZero
  else
    let interval := 1 / rate
    let since := now - last
    .ok (if Duration.less since interval then some (interval - since) else none)

/-- A request starts as soon as it may: the wait, and the times after it. A sleep may have a limit; a
longer wait ends in a fault. -/
def start (rate : δ) (t : Throttle δ) (longest : Option δ := none) :
    Except Fault (Option δ × Throttle δ) := do
  match ← wait rate t.last t.now with
  | some pause =>
    if longest.any (Duration.less · pause) then .error .overflow
    else return (some pause, ⟨t.now + pause, t.now + pause⟩)
  | none => return (none, ⟨t.now, t.now⟩)

def advance (t : Throttle δ) (elapsed : δ) : Throttle δ :=
  { t with now := t.now + elapsed }

end Throttle

end StorageController
