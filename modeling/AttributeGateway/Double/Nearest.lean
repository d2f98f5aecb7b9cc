import AttributeGateway.Double.Basic

/-!
# The nearest number to a decimal

Reading a decimal gives the floating-point number closest to it; of two that are equally close,
the one with an even significand. Decimals beyond the greatest finite number by half a step or
more give an infinity.
-/

namespace AttributeGateway

/-- The decimal number `digits * 10 ^ exponent`. -/
structure Decimal where
  digits : Nat
  exponent : Int
  deriving DecidableEq, Repr

namespace Double

/-- The quotient rounded to the nearest integer, a half to the even neighbour. -/
def roundHalfEven (num den : Nat) : Nat :=
  let q := num / den
  let r := num % den
  if den < 2 * r ∨ (den = 2 * r ∧ q % 2 = 1) then q + 1 else q

/-- The greatest `k` with `2 ^ k * den ≤ num`, for positive numbers. -/
def floorLog2 (num den : Nat) : Int :=
  let k : Int := (num.log2 : Int) - den.log2
  if den * Nat.pow 2 k.toNat ≤ num * Nat.pow 2 (-k).toNat then k else k - 1

/-- The magnitude of the number nearest to `num / den`. -/
def nearestMagnitude (num den : Nat) : Nat :=
  if num = 0 then 0
  else
    let q := max (floorLog2 num den - 52) (-1074)
    let m := roundHalfEven (num * Nat.pow 2 (-q).toNat) (den * Nat.pow 2 q.toNat)
    min ((q + 1074).toNat * fractions + m) infinityMagnitude

/-- How many decimal digits a natural number has. -/
def digitCount (n : Nat) : Nat := (Nat.toDigits 10 n).length

/-- The magnitude of the number nearest to a decimal. Decimals whose first digit is far outside
the range of the exponents are answered without computing the power of ten. -/
def nearest (d : Decimal) : Nat :=
  let first := d.exponent + digitCount d.digits
  if d.digits = 0 ∨ first < -400 then 0
  else if 400 < first then infinityMagnitude
  else nearestMagnitude (d.digits * Nat.pow 10 d.exponent.toNat) (Nat.pow 10 (-d.exponent).toNat)

end Double

end AttributeGateway
