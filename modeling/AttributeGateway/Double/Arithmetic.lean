import AttributeGateway.Double.Nearest

/-!
# Products, quotients and powers of ten

An operation on numbers gives the number nearest to its exact result, so a computation rounds at
each of its steps. That is why a number that is scaled by a power of ten need not be the one nearest
to the decimal: the digits, the power and the product are each rounded, and a power beyond the
greatest one that is a number takes several quotients.

Signs are left out: only absolute values are multiplied and divided.
-/

namespace AttributeGateway

namespace Double

/-- The absolute value of a finite number is a fraction with this numerator. -/
def numerator (x : Double) : Nat := x.significand * Nat.pow 2 x.scale.toNat

/-- The absolute value of a finite number is a fraction with this denominator. -/
def denominator (x : Double) : Nat := Nat.pow 2 (-x.scale).toNat

/-- The number nearest to a natural number. -/
def ofNat (n : Nat) : Double := ofMagnitude false (nearestMagnitude n 1)

/-- The infinity without a sign. -/
def infinity : Double := ofMagnitude false infinityMagnitude

/-- The product of two finite numbers. -/
def mul (x y : Double) : Double :=
  ofMagnitude false (nearestMagnitude (x.numerator * y.numerator) (x.denominator * y.denominator))

/-- The quotient of two finite numbers, the second of which is not zero. -/
def div (x y : Double) : Double :=
  ofMagnitude false (nearestMagnitude (x.numerator * y.denominator) (x.denominator * y.numerator))

/-- The greatest exponent of a power of ten that is near to a finite number. -/
def maxExponent : Nat := 308

/-- The power of ten as a number. -/
def powerOfTen (k : Nat) : Double := ofNat (Nat.pow 10 k)

/-- A number times a power of ten: one product or quotient if that power is near to a finite number.
Beyond, the product is infinite, and the quotient is taken by the greatest power until what remains
of the exponent is in reach. -/
def timesPowerOfTen (x : Double) (e : Int) : Double :=
  if e.natAbs ≤ maxExponent then
    if 0 ≤ e then x.mul (powerOfTen e.natAbs) else x.div (powerOfTen e.natAbs)
  else if x.isZero then x
  else if 0 ≤ e then infinity
  else (x.div (powerOfTen maxExponent)).timesPowerOfTen (e + maxExponent)
termination_by e.natAbs
decreasing_by
  simp only [maxExponent] at *
  omega

end Double

end AttributeGateway
