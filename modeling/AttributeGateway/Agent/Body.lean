import AttributeGateway.Json.Parser
import AttributeGateway.Text.Utf8

/-!
# Bodies

The body of a reply is a JSON document of which some members are passed over. They must have the
form of members, but need not stand for anything: a number may be too large, an escape may be for
half of a surrogate pair, the bytes of a string may be no text, and arrays and objects may be nested
as deeply as they like. So a body is first cut into pieces, each the bytes of a token if they are
one at all, and it is up to the member whether a piece is read or only looked at.

Main definitions: `pieces`, `Piece.token?`, `Piece.form?`.
-/

namespace AttributeGateway

namespace Agent

namespace Body

/-- A piece of a body. Each byte is the character with its number. -/
abbrev Piece : Type := List Char

/-- What belongs to a string from behind its opening quote on, and what follows it. -/
def splitString : List Char → List Char × List Char
  | [] => ([], [])
  | '"' :: rest => (['"'], rest)
  | '\\' :: c :: rest => ('\\' :: c :: (splitString rest).1, (splitString rest).2)
  | c :: rest => (c :: (splitString rest).1, (splitString rest).2)

/-- What follows a string is no longer than the string with the rest. -/
theorem length_splitString_le (text : List Char) :
    (splitString text).2.length ≤ text.length := by
  fun_induction splitString text with
  | case1 => exact Nat.le_refl _
  | case2 rest => exact Nat.le_succ _
  | case3 c rest ih => exact Nat.le_trans ih (Nat.le_add_right _ 2)
  | case4 c rest _ _ ih => exact Nat.le_trans ih (Nat.le_succ _)

/-- The characters of words and numbers. -/
def isPlain (c : Char) : Bool := c.isAlpha || Json.isNumberChar c

/-- Cuts a text into pieces: strings, runs of the characters of words and numbers, and single
characters otherwise. -/
def cut (text : List Char) : List Piece :=
  match text with
  | [] => []
  | '"' :: rest =>
    have := length_splitString_le rest
    ('"' :: (splitString rest).1) :: cut (splitString rest).2
  | c :: rest =>
    if Json.isSpace c then cut rest
    else if isPlain c then
      have : (rest.dropWhile isPlain).length ≤ rest.length :=
        (List.dropWhile_sublist _).length_le
      (c :: rest.takeWhile isPlain) :: cut (rest.dropWhile isPlain)
    else [c] :: cut rest
termination_by text.length

/-- The pieces of a body. -/
def pieces (body : List UInt8) : List Piece := cut (body.map fun b => Char.ofNat b.toNat)

/-- The token that a piece stands for. -/
def Piece.token? (piece : Piece) : Option Json.Token := do
  let text ← Text.ofBytes? (piece.map fun c => UInt8.ofNat c.toNat)
  match Json.tokens text.toList with
  | some [t] => some t
  | _ => none

/-- Whether a text has the form of a string from behind its opening quote on. -/
def endsString : List Char → Bool
  | [] => false
  | ['"'] => true
  | '\\' :: 'u' :: a :: b :: c :: d :: rest =>
    (Json.hexUnit? [a, b, c, d]).isSome && endsString rest
  | '\\' :: c :: rest => (Json.escape? [c]).isSome && endsString rest
  | c :: rest => c != '"' && 0x20 ≤ c.toNat && endsString rest

/-- Whether a text has the form of what may follow the digits of a number: an exponent, or
nothing. -/
def endsNumber : List Char → Bool
  | [] => true
  | e :: rest => (e == 'e' || e == 'E') && (Json.exponentValue? rest).isSome

/-- Whether a text has the form of a number without a sign. -/
def isUnsigned (text : List Char) : Bool :=
  Json.isWholePart (text.takeWhile Char.isDigit) &&
    match text.dropWhile Char.isDigit with
    | '.' :: rest =>
      !(rest.takeWhile Char.isDigit).isEmpty && endsNumber (rest.dropWhile Char.isDigit)
    | rest => endsNumber rest

/-- Whether a text has the form of a number. -/
def isNumeral : List Char → Bool
  | '-' :: text => isUnsigned text
  | text => isUnsigned text

/-- A token of the form of a piece, with some string or number in place of its own, which may not
exist. -/
def Piece.form? (piece : Piece) : Option Json.Token :=
  match piece with
  | '"' :: text => if endsString text then some (.string "") else none
  | _ => if isNumeral piece then some (.number (.integer 0 (by decide))) else piece.token?

end Body

end Agent

end AttributeGateway
