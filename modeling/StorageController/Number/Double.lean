namespace StorageController

/-- The number `± significand * 2 ^ exponent`. -/
structure Double where
  negative : Bool
  significand : Nat
  exponent : Int
deriving DecidableEq, Repr

def twoTo (n : Nat) : Nat :=
  Nat.pow 2 n

def tenTo (n : Nat) : Nat :=
  Nat.pow 10 n

namespace Double

def toRat (x : Double) : Rat :=
  let n : Int := if x.negative then -(x.significand : Int) else x.significand
  if 0 ≤ x.exponent then ((n * twoTo x.exponent.toNat : Int) : Rat)
  else mkRat n (twoTo (-x.exponent).toNat)

/-- The quotient rounded to a whole number, a tie to the even neighbour. -/
def roundQuotient (num den : Nat) : Nat :=
  let q := num / den
  let r := num % den
  if 2 * r > den || (2 * r == den && q % 2 == 1) then q + 1 else q

/-- `num / den` in units of `2 ^ e`, as a ratio. -/
def scaled (num den : Nat) (e : Int) : Nat × Nat :=
  if 0 ≤ e then (num, den * twoTo e.toNat) else (num * twoTo (-e).toNat, den)

/-- Significand and exponent of the nearest number to the positive ratio `num / den`. The
significand is below `2 ^ 53`, and at least `2 ^ 52` unless the exponent is the least one. -/
def nearest (num den : Nat) : Nat × Int :=
  let guess := max ((num.log2 : Int) - den.log2 - 53) (-1074)
  let (n, d) := scaled num den guess
  let e := if n / d < twoTo 53 then guess else guess + 1
  let (n, d) := scaled num den e
  let m := roundQuotient n d
  if m = twoTo 53 then (twoTo 52, e + 1) else (m, e)

/-- Exponents beyond which a decimal is certainly zero or out of range, whatever its digits. -/
def decimalReach : Int := 400

/-- The number nearest to `digits * 10 ^ exponent`; none if it is beyond the largest finite one. -/
def ofDecimal? (negative : Bool) (digits : Nat) (exponent : Int) : Option Double :=
  let size : Int := (Nat.toDigits 10 digits).length + exponent
  if digits = 0 || size < -decimalReach then some ⟨negative, 0, -1074⟩
  else if decimalReach < size then none
  else
    let (m, e) :=
      if 0 ≤ exponent then nearest (digits * tenTo exponent.toNat) 1
      else nearest digits (tenTo (-exponent).toNat)
    if e ≤ 971 then some ⟨negative, m, e⟩ else none

/-- The machine word of a number of the format. -/
def toBits (x : Double) : UInt64 :=
  let magnitude :=
    if x.significand = 0 then 0 else (x.exponent + 1074).toNat * twoTo 52 + x.significand
  UInt64.ofNat ((if x.negative then twoTo 63 else 0) + magnitude)

def toFloat (x : Double) : Float :=
  Float.ofBits x.toBits

end Double

end StorageController
