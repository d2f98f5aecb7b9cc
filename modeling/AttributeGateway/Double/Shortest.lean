import AttributeGateway.Double.Nearest

/-!
# The shortest decimal that reads back

A number is written with the fewest decimal digits from which reading recovers it, and among the
decimals with that many digits by the closest one. For each count of digits there are only two
candidates, the value cut off after that many digits and that plus one unit: they are tried from
one digit up, first the closer one. At seventeen digits one of them always reads back.
-/

namespace AttributeGateway

/-- Which candidate is the closer one when the value lies exactly between the two. -/
inductive Tie where
  /-- The upper one. -/
  | up
  /-- The one whose last digit is even. -/
  | even
  deriving DecidableEq, Repr

namespace Double

/-- The exact decimal value of a finite number, its sign apart. -/
def exact (x : Double) : Decimal :=
  if 0 ≤ x.scale then ⟨x.significand * Nat.pow 2 x.scale.toNat, 0⟩
  else ⟨x.significand * Nat.pow 5 (-x.scale).toNat, x.scale⟩

/-- Whether reading the decimal gives the number, its sign apart. -/
def readsBack (x : Double) (d : Decimal) : Bool := nearest d == x.magnitude

/-- Whether the cut-off value `low`, with `rest` of `unit` cut off, is to be tried before the
value above it. -/
def prefersLow (tie : Tie) (low rest unit : Nat) : Bool :=
  match compare (2 * rest) unit with
  | .lt => true
  | .gt => false
  | .eq =>
    match tie with
    | .up => false
    | .even => low % 2 == 0

/-- The closest decimal of `count` digits that reads back, if there is one. -/
def shortenTo (tie : Tie) (x : Double) (count : Nat) : Option Decimal :=
  let whole := x.exact
  let dropped := digitCount whole.digits - count
  let unit := Nat.pow 10 dropped
  let low := whole.digits / unit
  let down : Decimal := ⟨low, whole.exponent + dropped⟩
  let up : Decimal :=
    if low + 1 = Nat.pow 10 count then ⟨1, whole.exponent + dropped + count⟩
    else ⟨low + 1, whole.exponent + dropped⟩
  let candidates :=
    if prefersLow tie low (whole.digits % unit) unit then [down, up] else [up, down]
  candidates.find? x.readsBack

/-- The shortest decimal that reads back to a finite number, its sign apart. -/
def shortest (tie : Tie) (x : Double) : Decimal :=
  ((List.range 17).findSome? fun n => shortenTo tie x (n + 1)).getD x.exact

/-- A decimal that was found reads back. -/
theorem readsBack_of_shortenTo {tie : Tie} {x : Double} {count : Nat} {d : Decimal}
    (h : shortenTo tie x count = some d) : x.readsBack d = true :=
  List.find?_some h

end Double

end AttributeGateway
