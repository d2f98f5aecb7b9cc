import AttributeGateway.Double.Shortest

/-!
# How numbers are written

The digits of a number are chosen by `Double.shortest`; how they are laid out is a decision of
the format, and each format states its decisions in one `NumberLayout`.

* `NumberLayout.plain`: a number that is an answer of its own has no exponent, however many
  zeros that takes, and no point if it is whole.
* `NumberLayout.json`: inside composite values whole numbers keep `.0`, and numbers whose first
  digit stands below the fifth decimal place or above the sixteenth digit before the point have
  an exponent with its sign.
-/

namespace AttributeGateway

/-- The decisions of a format on how numbers are written. -/
structure NumberLayout where
  /-- What decides between two decimals that are equally close. -/
  tie : Tie
  /-- Whether a number whose first digit stands for this power of ten is written without an
  exponent. -/
  positional : Int → Bool
  /-- What follows a whole number that is written without an exponent. -/
  wholeEnd : List Char

namespace NumberLayout

/-- A number as an answer of its own. -/
def plain : NumberLayout := ⟨.up, fun _ => true, []⟩

/-- A number inside a composite value. -/
def json : NumberLayout := ⟨.even, fun e => decide (-5 ≤ e ∧ e < 16), ['.', '0']⟩

/-- Digits with the decimal point after the first `point` of them; a point before the first digit
or behind the last one is reached by zeros. -/
def positionalText (layout : NumberLayout) (digits : List Char) (point : Int) : List Char :=
  if point ≤ 0 then '0' :: '.' :: (List.replicate (-point).toNat '0' ++ digits)
  else if point < digits.length then
    digits.take point.toNat ++ '.' :: digits.drop point.toNat
  else digits ++ List.replicate (point.toNat - digits.length) '0' ++ layout.wholeEnd

/-- Digits with the point after the first one and an exponent. -/
def exponentText (digits : List Char) (exponent : Int) : List Char :=
  let mantissa :=
    match digits with
    | [] => []
    | [d] => [d]
    | d :: rest => d :: '.' :: rest
  mantissa ++ 'e' :: (if exponent < 0 then '-' else '+') :: Nat.toDigits 10 exponent.natAbs

/-- A decimal, its sign apart. -/
def decimalText (layout : NumberLayout) (d : Decimal) : List Char :=
  let digits := Nat.toDigits 10 d.digits
  let point := d.exponent + digits.length
  if layout.positional (point - 1) then layout.positionalText digits point
  else exponentText digits (point - 1)

/-- A finite number. -/
def finiteText (layout : NumberLayout) (x : Double) : List Char :=
  let unsigned :=
    if x.isZero then '0' :: layout.wholeEnd else layout.decimalText (x.shortest layout.tie)
  if x.negative then '-' :: unsigned else unsigned

end NumberLayout

/-- A number as an answer of its own; the infinities and NaN have names. -/
def Double.text (x : Double) : String :=
  if x.isFinite then String.ofList (NumberLayout.plain.finiteText x)
  else if x.isNaN then "NaN"
  else if x.negative then "-inf"
  else "inf"

end AttributeGateway
