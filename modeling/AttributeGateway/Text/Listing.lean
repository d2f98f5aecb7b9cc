import AttributeGateway.Text.Visible

/-!
# Quoted listings

A text in a listing stands between double quotes. Quotes and backslashes inside it are preceded
by a backslash, the common control characters have letters, and any other character that is not
visible is given by its code point in hexadecimal, between braces.
-/

namespace AttributeGateway

namespace Text

/-- The hexadecimal digits of a number, in lower case. -/
def hexDigits (n : Nat) : List Char := Nat.toDigits 16 n

/-- How a listing shows one character. -/
def listed (c : Char) : List Char :=
  match c with
  | '"' => ['\\', '"']
  | '\\' => ['\\', '\\']
  | '\n' => ['\\', 'n']
  | '\r' => ['\\', 'r']
  | '\t' => ['\\', 't']
  | '\x00' => ['\\', '0']
  | c =>
    if isVisible c then [c]
    else ['\\', 'u', '\x7b'] ++ hexDigits c.toNat ++ ['\x7d']

/-- A text as a listing shows it. -/
def quoted (text : String) : String :=
  String.ofList ('"' :: text.toList.flatMap listed ++ ['"'])

end Text

end AttributeGateway
