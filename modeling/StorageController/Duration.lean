import StorageController.Number.Double

namespace StorageController

/-- Numbers that durations and points in time are measured in. -/
class Duration (δ : Type) extends Zero δ, One δ, Add δ, Sub δ, Mul δ, Div δ where
  less : δ → δ → Bool
  isZero : δ → Bool
  /-- A power; none if it is beyond the range of the numbers. -/
  power? : δ → Nat → Option δ

namespace Duration

def least {δ : Type} [Duration δ] (x y : δ) : δ :=
  if less y x then y else x

/-- A power of a floating-point number. A base or exponent beyond all numbers is no fault, a power
beyond them is. -/
def floatPower? (x : Float) (n : Nat) : Option Float :=
  let exponent := Float.ofNat n
  if exponent.isInf then none
  else
    let result := Float.pow x exponent
    if result.isInf && x.isFinite then none else some result

instance : Duration Float where
  zero := 0.0
  one := 1.0
  less x y := x < y
  isZero x := x == 0.0
  power? := floatPower?

def largest : Rat :=
  mkRat ((twoTo 53 - 1) * twoTo 971) 1

/-- A power of a rational number; both the exponent and the power have to stay within the range of
floating-point numbers. -/
def ratPower? (x : Rat) (n : Nat) : Option Rat :=
  if (n : Rat) ≤ largest ∧ -largest ≤ x ^ n ∧ x ^ n ≤ largest then some (x ^ n) else none

instance : Duration Rat where
  zero := 0
  one := 1
  less x y := x < y
  isZero x := x == 0
  power? := ratPower?

end Duration

end StorageController
