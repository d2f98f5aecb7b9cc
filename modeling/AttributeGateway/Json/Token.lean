import AttributeGateway.Double.Arithmetic
import AttributeGateway.Json.Basic
import AttributeGateway.Text.Numeral

/-!
# Tokens of JSON

A JSON text is cut into tokens before it is read: brackets, commas and colons, the three words,
strings and numbers. Space, tab, carriage return and line feed may stand between tokens. No two
tokens that a document allows side by side could be read as one, so cutting first loses nothing.

A string may hold any character but quotes, backslashes and controls, and escapes for all of them;
an escape for half of a surrogate pair is no character. A number is an integer if it has neither
fraction nor exponent and fits into 64 bits (`-0` is not: it keeps its sign as a floating-point
number). Any other number is a floating-point number, which must be finite. It is computed from as
many of the digits as fit into 64 bits, rounded, and a power of ten, and is the nearest one only
while that takes no more than one rounding.
-/

namespace AttributeGateway

namespace Json

/-- A token. -/
inductive Token where
  | beginArray
  | endArray
  | beginObject
  | endObject
  | comma
  | colon
  | null
  | bool (b : Bool)
  | number (n : Number)
  | string (s : String)

/-- Space between tokens. -/
def isSpace (c : Char) : Bool := c == ' ' || c == '\t' || c == '\n' || c == '\r'

/-! ### Strings -/

/-- The value of a hexadecimal digit. -/
def hexValue? (c : Char) : Option Nat :=
  if c.isDigit then some (c.toNat - 48)
  else if 'a' ≤ c ∧ c ≤ 'f' then some (c.toNat - 87)
  else if 'A' ≤ c ∧ c ≤ 'F' then some (c.toNat - 55)
  else none

/-- The number that four hexadecimal digits at the beginning stand for, and what follows them. -/
def hexUnit? : List Char → Option (Nat × List Char)
  | a :: b :: c :: d :: rest => do
    let a ← hexValue? a
    let b ← hexValue? b
    let c ← hexValue? c
    let d ← hexValue? d
    return (a * 4096 + b * 256 + c * 16 + d, rest)
  | _ => none

/-- The character of an escape by number, whose digits begin here, and what follows it. The first
half of a surrogate pair must be followed by an escape for the second half. -/
def codeEscape? (text : List Char) : Option (Char × List Char) := do
  let (unit, rest) ← hexUnit? text
  if 0xD800 ≤ unit ∧ unit < 0xDC00 then
    match rest with
    | '\\' :: 'u' :: rest =>
      let (second, rest) ← hexUnit? rest
      if 0xDC00 ≤ second ∧ second < 0xE000 then
        return (Char.ofNat (0x10000 + (unit - 0xD800) * 1024 + (second - 0xDC00)), rest)
      else none
    | _ => none
  else if 0xDC00 ≤ unit ∧ unit < 0xE000 then none
  else return (Char.ofNat unit, rest)

/-- The character of an escape, whose letter comes first here, and what follows it. -/
def escape? : List Char → Option (Char × List Char)
  | '"' :: rest => some ('"', rest)
  | '\\' :: rest => some ('\\', rest)
  | '/' :: rest => some ('/', rest)
  | 'b' :: rest => some ('\x08', rest)
  | 'f' :: rest => some ('\x0c', rest)
  | 'n' :: rest => some ('\n', rest)
  | 'r' :: rest => some ('\r', rest)
  | 't' :: rest => some ('\t', rest)
  | 'u' :: rest => codeEscape? rest
  | _ => none

theorem length_of_hexUnit? {text rest : List Char} {n : Nat}
    (h : hexUnit? text = some (n, rest)) : rest.length < text.length := by
  match text with
  | a :: b :: c :: d :: r =>
    simp only [hexUnit?, Option.bind_eq_bind, Option.bind_eq_some_iff, Option.pure_def,
      Option.some.injEq, Prod.mk.injEq] at h
    obtain ⟨_, -, _, -, _, -, _, -, -, rfl⟩ := h
    simp only [List.length_cons]
    omega
  | [] => simp [hexUnit?] at h
  | [_] => simp [hexUnit?] at h
  | [_, _] => simp [hexUnit?] at h
  | [_, _, _] => simp [hexUnit?] at h

theorem length_of_codeEscape? {text rest : List Char} {c : Char}
    (h : codeEscape? text = some (c, rest)) : rest.length < text.length := by
  simp only [codeEscape?, Option.bind_eq_bind, Option.bind_eq_some_iff] at h
  obtain ⟨⟨unit, r⟩, hu, h⟩ := h
  have hr := length_of_hexUnit? hu
  simp only at h
  split at h
  · split at h
    · simp only [Option.bind_eq_some_iff] at h
      obtain ⟨⟨second, r'⟩, hs, h⟩ := h
      have hr' := length_of_hexUnit? hs
      simp only at h
      split at h
      · simp only [Option.pure_def, Option.some.injEq, Prod.mk.injEq] at h
        obtain ⟨-, rfl⟩ := h
        simp only [List.length_cons] at hr
        omega
      · simp at h
    · simp at h
  · split at h
    · simp at h
    · simp only [Option.pure_def, Option.some.injEq, Prod.mk.injEq] at h
      obtain ⟨-, rfl⟩ := h
      exact hr

/-- An escape uses up at least one character. -/
theorem length_of_escape? {text rest : List Char} {c : Char}
    (h : escape? text = some (c, rest)) : rest.length < text.length := by
  unfold escape? at h
  split at h
  case h_9 r => exact Nat.lt_trans (length_of_codeEscape? h) (Nat.lt_succ_self _)
  case h_10 => simp at h
  all_goals
    simp only [Option.some.injEq, Prod.mk.injEq] at h
    obtain ⟨-, rfl⟩ := h
    exact Nat.lt_succ_self _

/-- Reads a string behind its opening quote, onto the characters read before, the last one first.
The result is the string and what follows its closing quote. -/
def scanString (read : List Char) (text : List Char) : Option (List Char × List Char) :=
  match text with
  | [] => none
  | '"' :: rest => some (read.reverse, rest)
  | '\\' :: rest =>
    match h : escape? rest with
    | some (c, rest') =>
      have := length_of_escape? h
      scanString (c :: read) rest'
    | none => none
  | c :: rest => if c.toNat < 0x20 then none else scanString (c :: read) rest
termination_by text.length

/-- What follows a string is shorter than the string with its closing quote and the rest. -/
theorem length_of_scanString {read text s rest : List Char}
    (h : scanString read text = some (s, rest)) : rest.length < text.length := by
  fun_induction scanString read text with
  | case1 => simp at h
  | case2 read r =>
    simp only [Option.some.injEq, Prod.mk.injEq] at h
    obtain ⟨-, rfl⟩ := h
    exact Nat.lt_succ_self _
  | case3 read r c r' he hlt ih =>
    have := ih h
    simp only [List.length_cons]
    omega
  | case4 => simp at h
  | case5 => simp at h
  | case6 read c r _ _ _ ih => exact Nat.lt_trans (ih h) (Nat.lt_succ_self _)

/-! ### Numbers -/

/-- The value of decimal digits. -/
def digitsValue (digits : List Char) : Nat :=
  digits.foldl (fun n c => n * 10 + (c.toNat - 48)) 0

/-- Whether these are the digits of a whole part: no zero before another digit. -/
def isWholePart : List Char → Bool
  | [] => false
  | ['0'] => true
  | c :: _ => c != '0'

/-- The exponent that an optional sign and digits stand for. -/
def exponentValue? : List Char → Option Int
  | '-' :: digits => if digits.isEmpty || !digits.all Char.isDigit then none
      else some (-(digitsValue digits : Int))
  | '+' :: digits => if digits.isEmpty || !digits.all Char.isDigit then none
      else some (digitsValue digits)
  | digits => if digits.isEmpty || !digits.all Char.isDigit then none
      else some (digitsValue digits)

/-- Appends a digit of the whole part to what has been kept of it: digits are kept as long as their
value fits into 64 bits, and from the first that does not, each one counts for a power of ten. -/
def keepWhole (kept : Decimal) (c : Char) : Decimal :=
  let digits := kept.digits * 10 + (c.toNat - 48)
  if kept.exponent = 0 ∧ digits ≤ Text.maxWord64 then ⟨digits, 0⟩
  else ⟨kept.digits, kept.exponent + 1⟩

/-- Appends the digits of a fraction to what has been kept, up to the first one with which the value
no longer fits into 64 bits. The rest is passed over. -/
def keepFraction (kept : Decimal) : List Char → Decimal
  | [] => kept
  | c :: fraction =>
    let digits := kept.digits * 10 + (c.toNat - 48)
    if digits ≤ Text.maxWord64 then keepFraction ⟨digits, kept.exponent - 1⟩ fraction else kept

/-- What is kept of the digits before and after the point. -/
def kept (whole fraction : List Char) : Decimal :=
  keepFraction (whole.foldl keepWhole ⟨0, 0⟩) fraction

/-- The floating-point number of a decimal, if it is finite: its digits as a number, times the power
of ten. -/
def realNumber? (negative : Bool) (d : Decimal) : Option Number :=
  let x := (Double.ofNat d.digits).timesPowerOfTen d.exponent
  let signed := Double.ofMagnitude negative x.magnitude
  if h : signed.isFinite = true then some (.real signed h) else none

/-- The number of digits without fraction and exponent. -/
def wholeNumber? (negative : Bool) (whole : List Char) : Option Number :=
  let n := digitsValue whole
  let i : Int := if negative then -n else n
  if h : (-0x8000000000000000 ≤ i ∧ i ≤ 0xFFFFFFFFFFFFFFFF) ∧ ¬(negative = true ∧ n = 0) then
    some (.integer i h.1)
  else realNumber? negative (kept whole [])

/-- The number of a whole part and a fraction, before which a sign may have stood; what remains
of the token is an exponent or nothing. -/
def fractionNumber? (negative : Bool) (whole fraction rest : List Char) : Option Number :=
  let d := kept whole fraction
  match rest with
  | [] => realNumber? negative d
  | e :: rest =>
    if e = 'e' ∨ e = 'E' then do
      let exponent ← exponentValue? rest
      realNumber? negative ⟨d.digits, d.exponent + exponent⟩
    else none

/-- The number of a token without its sign. -/
def unsignedNumber? (negative : Bool) (text : List Char) : Option Number :=
  let whole := text.takeWhile Char.isDigit
  if !isWholePart whole then none
  else
    match text.dropWhile Char.isDigit with
    | [] => wholeNumber? negative whole
    | '.' :: rest =>
      let fraction := rest.takeWhile Char.isDigit
      if fraction.isEmpty then none
      else fractionNumber? negative whole fraction (rest.dropWhile Char.isDigit)
    | rest => fractionNumber? negative whole [] rest

/-- The number that a token stands for. -/
def number? : List Char → Option Number
  | '-' :: text => unsignedNumber? true text
  | text => unsignedNumber? false text

/-- The characters of which numbers consist. -/
def isNumberChar (c : Char) : Bool :=
  c.isDigit || c == '-' || c == '+' || c == '.' || c == 'e' || c == 'E'

/-! ### Cutting a text -/

/-- Cuts a text into tokens, behind the tokens cut before, the last one first. -/
def scan (cut : List Token) (text : List Char) : Option (List Token) :=
  match text with
  | [] => some cut.reverse
  | '[' :: rest => scan (.beginArray :: cut) rest
  | ']' :: rest => scan (.endArray :: cut) rest
  | '{' :: rest => scan (.beginObject :: cut) rest
  | '}' :: rest => scan (.endObject :: cut) rest
  | ',' :: rest => scan (.comma :: cut) rest
  | ':' :: rest => scan (.colon :: cut) rest
  | 'n' :: 'u' :: 'l' :: 'l' :: rest => scan (.null :: cut) rest
  | 't' :: 'r' :: 'u' :: 'e' :: rest => scan (.bool true :: cut) rest
  | 'f' :: 'a' :: 'l' :: 's' :: 'e' :: rest => scan (.bool false :: cut) rest
  | '"' :: rest =>
    match h : scanString [] rest with
    | some (s, rest') =>
      have := length_of_scanString h
      scan (.string (String.ofList s) :: cut) rest'
    | none => none
  | c :: rest =>
    if isSpace c then scan cut rest
    else if isNumberChar c then
      match number? (c :: rest.takeWhile isNumberChar) with
      | some n =>
        have : (rest.dropWhile isNumberChar).length ≤ rest.length :=
          (List.dropWhile_sublist _).length_le
        scan (.number n :: cut) (rest.dropWhile isNumberChar)
      | none => none
    else none
termination_by text.length

/-- The tokens of a text. -/
def tokens (text : List Char) : Option (List Token) := scan [] text

end Json

end AttributeGateway
