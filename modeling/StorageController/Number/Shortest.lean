import StorageController.Number.Double

namespace StorageController.Double

/-- The number and the decimals that read back to it, in quarters of the last binary place: lower
bound, value, upper bound. Below a power of two the next number is only half as far. -/
def quarters (m : Nat) (e : Int) : Nat × Nat × Nat :=
  (if m = twoTo 52 ∧ -1074 < e then 4 * m - 1 else 4 * m - 2, 4 * m, 4 * m + 2)

/-- `n * 2 ^ e` in units of `10 ^ k`, as a ratio. -/
def inUnits (n : Nat) (e k : Int) : Nat × Nat :=
  let num := n * twoTo e.toNat * tenTo (-k).toNat
  let den := twoTo (-e).toNat * tenTo k.toNat
  (num, den)

/-- The power of ten at or below the positive number `n * 2 ^ e`. -/
def magnitude (n : Nat) (e : Int) : Int :=
  let (num, den) := inUnits n e (-decimalReach)
  (Nat.toDigits 10 (num / den)).length - 1 - decimalReach

/-- The multiple of `10 ^ k` nearest to the number, if one reads back to it. -/
def onGrid? (m : Nat) (e k : Int) : Option Nat :=
  let (low, value, high) := quarters m e
  let reads (c : Nat) : Bool :=
    let (ln, ld) := inUnits low (e - 2) k
    let (hn, hd) := inUnits high (e - 2) k
    if m % 2 = 0 then ln ≤ c * ld && c * hd ≤ hn else ln < c * ld && c * hd < hn
  let (vn, vd) := inUnits value (e - 2) k
  let nearest := roundQuotient vn vd
  let floor := vn / vd
  if reads nearest then some nearest
  else if reads floor then some floor
  else if reads (floor + 1) then some (floor + 1)
  else none

/-- The fewest digits that read back to the positive number `m * 2 ^ e`, and their power of ten.
Seventeen digits always do. -/
def shortest (m : Nat) (e : Int) : Nat × Int :=
  let top := magnitude m e
  let attempt (dropped : Nat) : Option (Nat × Int) :=
    (onGrid? m e (top - dropped)).map fun c => (c, top - dropped)
  ((List.range 17).findSome? attempt).getD (0, 0)

/-- A decimal written out: its digits start at the power of ten `top`. -/
def layout (digits : List Char) (top : Int) : List Char :=
  let n : Int := digits.length
  if -4 ≤ top ∧ top < 16 then
    if top < 0 then "0.".toList ++ List.replicate (-top - 1).toNat '0' ++ digits
    else if n ≤ top + 1 then digits ++ List.replicate (top + 1 - n).toNat '0' ++ ".0".toList
    else digits.take (top + 1).toNat ++ '.' :: digits.drop (top + 1).toNat
  else
    let mantissa :=
      match digits with
      | d :: (rest@(_ :: _)) => d :: '.' :: rest
      | ds => ds
    let power := Nat.toDigits 10 top.natAbs
    mantissa ++ ['e', if top < 0 then '-' else '+'] ++
      (if power.length < 2 then '0' :: power else power)

def significant (c : Nat) : List Char :=
  ((Nat.toDigits 10 c).reverse.dropWhile (· = '0')).reverse

/-- The shortest decimal text that reads back to the number. -/
def text (x : Double) : List Char :=
  let magnitude :=
    if x.significand = 0 then "0.0".toList
    else
      let (c, k) := shortest x.significand x.exponent
      layout (significant c) (k + (Nat.toDigits 10 c).length - 1)
  if x.negative then '-' :: magnitude else magnitude

end StorageController.Double
