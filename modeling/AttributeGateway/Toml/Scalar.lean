import AttributeGateway.Double.Nearest
import AttributeGateway.Json.Token
import AttributeGateway.Text.Numeral
import AttributeGateway.Toml.Basic

/-!
# Bare values

A value that is neither quoted nor bracketed is a boolean, an integer, a floating-point number or
a date or time. Underscores may separate the digits of numbers. An integer must fit into 128 bits,
signed or unsigned, and a floating-point number must be finite unless it is written as an infinity.
-/

namespace AttributeGateway

namespace Toml

/-! ### Numbers -/

/-- Whether a text is digits, with single underscores between them. -/
def isGrouped (isDigit : Char → Bool) : List Char → Bool
  | [] => false
  | [c] => isDigit c
  | c :: '_' :: rest => isDigit c && isGrouped isDigit rest
  | c :: rest => isDigit c && isGrouped isDigit rest

/-- The value of digits in a base, where underscores do not count. -/
def groupedValue (base : Nat) (text : List Char) : Nat :=
  text.foldl (fun n c => match Json.hexValue? c with
    | some d => n * base + d
    | none => n) 0

/-- Whether a text is the whole part of a number: no zero before another digit. -/
def isWhole (text : List Char) : Bool :=
  isGrouped Char.isDigit text && (text.head? != some '0' || text == ['0'])

/-- The integer of a text that begins with neither a sign nor a letter. -/
def natural? : List Char → Option Nat
  | '0' :: 'x' :: digits =>
    if isGrouped (fun c => (Json.hexValue? c).isSome) digits then some (groupedValue 16 digits)
    else none
  | '0' :: 'o' :: digits =>
    if isGrouped (fun c => decide ('0' ≤ c ∧ c ≤ '7')) digits then some (groupedValue 8 digits)
    else none
  | '0' :: 'b' :: digits =>
    if isGrouped (fun c => c == '0' || c == '1') digits then some (groupedValue 2 digits) else none
  | digits => if isWhole digits then some (groupedValue 10 digits) else none

/-- The integer of a text. Only decimal digits may follow a sign. -/
def integer? (text : List Char) : Option Int := do
  let i ← match text with
    | '+' :: digits => if isWhole digits then some (groupedValue 10 digits : Int) else none
    | '-' :: digits => if isWhole digits then some (-(groupedValue 10 digits : Int)) else none
    | digits => (natural? digits).map Int.ofNat
  if -(Nat.pow 2 127 : Nat) ≤ i ∧ i < (Nat.pow 2 128 : Nat) then some i else none

/-- A digit or the underscore between digits. -/
def isGroupChar (c : Char) : Bool := c.isDigit || c == '_'

/-- Whether whole part, fraction and exponent make a finite number. -/
def isFiniteReal (whole fraction : List Char) (exponent : Int) : Bool :=
  let places := (fraction.filter Char.isDigit).length
  decide (Double.nearest ⟨groupedValue 10 (whole ++ fraction), exponent - places⟩
    < Double.infinityMagnitude)

/-- Whether the rest of a number, behind whole part and fraction, is an exponent that makes a finite
number, or nothing behind a fraction. -/
def isExponent (whole fraction : List Char) : List Char → Bool
  | [] => !fraction.isEmpty && isFiniteReal whole fraction 0
  | e :: rest =>
    let (sign, digits) : Int × List Char := match rest with
      | '+' :: digits => (1, digits)
      | '-' :: digits => (-1, digits)
      | digits => (1, digits)
    (e == 'e' || e == 'E') && isGrouped Char.isDigit digits &&
      isFiniteReal whole fraction (sign * groupedValue 10 digits)

/-- Whether a text without its sign is a floating-point number. -/
def isUnsignedReal (text : List Char) : Bool :=
  text == "inf".toList || text == "nan".toList ||
    let whole := text.takeWhile isGroupChar
    isWhole whole &&
      match text.dropWhile isGroupChar with
      | '.' :: rest =>
        let fraction := rest.takeWhile isGroupChar
        isGrouped Char.isDigit fraction && isExponent whole fraction (rest.dropWhile isGroupChar)
      | rest => isExponent whole [] rest

/-- Whether a text is a floating-point number. -/
def isReal : List Char → Bool
  | '+' :: text => isUnsignedReal text
  | '-' :: text => isUnsignedReal text
  | text => isUnsignedReal text

/-! ### Dates and times -/

/-- The number of a fixed count of digits, and what follows them. -/
def digits? : Nat → Nat → List Char → Option (Nat × List Char)
  | 0, n, text => some (n, text)
  | _ + 1, _, [] => none
  | k + 1, n, c :: text => (Text.digit? c).bind fun d => digits? k (n * 10 + d) text

/-- What follows a given character. -/
def after? (c : Char) : List Char → Option (List Char)
  | d :: rest => if d = c then some rest else none
  | [] => none

/-- How many days a month has. -/
def daysIn (year month : Nat) : Nat :=
  if month = 2 then
    if year % 4 = 0 ∧ (year % 100 ≠ 0 ∨ year % 400 = 0) then 29 else 28
  else if month = 4 ∨ month = 6 ∨ month = 9 ∨ month = 11 then 30
  else 31

/-- What follows a date. -/
def afterDate? (text : List Char) : Option (List Char) := do
  let (year, text) ← digits? 4 0 text
  let (month, text) ← digits? 2 0 (← after? '-' text)
  let (day, text) ← digits? 2 0 (← after? '-' text)
  if 1 ≤ month ∧ month ≤ 12 ∧ 1 ≤ day ∧ day ≤ daysIn year month then some text else none

/-- What follows hours and minutes. -/
def afterMinutes? (text : List Char) : Option (List Char) := do
  let (hour, text) ← digits? 2 0 text
  let (minute, text) ← digits? 2 0 (← after? ':' text)
  if hour ≤ 23 ∧ minute ≤ 59 then some text else none

/-- What follows a time. Seconds may be left out, and may have a fraction. -/
def afterTime? (text : List Char) : Option (List Char) := do
  let text ← afterMinutes? text
  match text with
  | ':' :: text =>
    let (second, text) ← digits? 2 0 text
    if 60 < second then none
    else
      match text with
      | '.' :: c :: text => if c.isDigit then some (text.dropWhile Char.isDigit) else none
      | text => some text
  | text => some text

/-- Whether a text is an offset from universal time, or nothing. -/
def isOffset : List Char → Bool
  | [] => true
  | [c] => c == 'Z' || c == 'z'
  | c :: text => (c == '+' || c == '-') && afterMinutes? text == some []

/-- Whether a text is a date, a time, or a date and a time. -/
def isMoment (text : List Char) : Bool :=
  match afterDate? text with
  | some [] => true
  | some (c :: time) =>
    (c == 'T' || c == 't' || c == ' ') && (afterTime? time).any isOffset
  | none => afterTime? text == some []

/-! ### All of them -/

/-- The value that a bare text stands for. -/
def Value.ofBare? (text : List Char) : Option Value :=
  if text = "true".toList then some (.boolean true)
  else if text = "false".toList then some (.boolean false)
  else
    match integer? text with
    | some i => some (.integer i)
    | none =>
      if isReal text = true then some .real
      else if isMoment text = true then some .moment
      else none

end Toml

end AttributeGateway
