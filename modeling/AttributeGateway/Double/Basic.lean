/-!
# Double-precision numbers

A measured value can be a binary floating-point number of 64 bits. It is kept as its bits, and
everything about it is read off them in exact arithmetic on natural numbers: a finite number is
`significand * 2 ^ scale`, with a sign.

Comparison follows the floating-point standard: a NaN differs from every number, itself
included, and the two zeros are equal.
-/

namespace AttributeGateway

/-- A floating-point number of 64 bits. -/
structure Double where
  bits : UInt64
  deriving DecidableEq, Repr

namespace Double

/-- How many fractions there are for each exponent: two to the power of 52. -/
def fractions : Nat := 0x10000000000000

/-- The value of the sign bit: two to the power of 63. -/
def signBit : Nat := 0x8000000000000000

/-- The magnitude of the infinities: all bits of the exponent, none of the fraction. -/
def infinityMagnitude : Nat := 2047 * fractions

/-- All bits but the sign, as a number; the order of these numbers is the order of the absolute
values. -/
def magnitude (x : Double) : Nat := x.bits.toNat % signBit

/-- Whether the sign bit is set. -/
def negative (x : Double) : Bool := decide (signBit ≤ x.bits.toNat)

/-- The number with the given sign and magnitude. -/
def ofMagnitude (negative : Bool) (magnitude : Nat) : Double :=
  ⟨UInt64.ofNat (if negative then signBit + magnitude else magnitude)⟩

/-- Neither an infinity nor a NaN. -/
def isFinite (x : Double) : Bool := decide (x.magnitude < infinityMagnitude)

/-- Not a number. -/
def isNaN (x : Double) : Bool := decide (infinityMagnitude < x.magnitude)

/-- One of the two zeros. -/
def isZero (x : Double) : Bool := x.magnitude == 0

/-- The integer `m` of a finite number `m * 2 ^ q`. -/
def significand (x : Double) : Nat :=
  if x.magnitude < fractions then x.magnitude else fractions + x.magnitude % fractions

/-- The exponent `q` of a finite number `m * 2 ^ q`. -/
def scale (x : Double) : Int := (max (x.magnitude / fractions) 1 : Nat) - 1075

/-- Equality of numbers: never true of a NaN, and true of the two zeros. -/
def eq (x y : Double) : Bool :=
  !x.isNaN && !y.isNaN && (x == y || (x.isZero && y.isZero))

/-- Two numbers are equal if neither is a NaN, and they are the same or two zeros. -/
theorem eq_iff {x y : Double} : x.eq y = true ↔
    x.isNaN = false ∧ y.isNaN = false ∧ (x = y ∨ x.isZero = true ∧ y.isZero = true) := by
  simp [eq, and_assoc]

end Double

end AttributeGateway
