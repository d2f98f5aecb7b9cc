import AttributeGateway.Json.Basic
import AttributeGateway.Text.Numeral

/-!
# Writing JSON

Documents are written without any space between tokens. Strings escape quotes, backslashes and
control characters and nothing else; the control characters that have a letter are escaped by it,
the others by four hexadecimal digits in lower case.
-/

namespace AttributeGateway

namespace Json

/-- The digits of a number below `16 ^ 4` in hexadecimal. -/
def hex4 (n : Nat) : List Char :=
  [Nat.digitChar (n / 4096 % 16), Nat.digitChar (n / 256 % 16), Nat.digitChar (n / 16 % 16),
    Nat.digitChar (n % 16)]

/-- One character inside a string. -/
def escaped (c : Char) : List Char :=
  match c with
  | '"' => ['\\', '"']
  | '\\' => ['\\', '\\']
  | '\x08' => ['\\', 'b']
  | '\x0c' => ['\\', 'f']
  | '\n' => ['\\', 'n']
  | '\r' => ['\\', 'r']
  | '\t' => ['\\', 't']
  | c => if c.toNat < 0x20 then '\\' :: 'u' :: hex4 c.toNat else [c]

/-- A string in quotes. -/
def stringText (s : String) : List Char := '"' :: (s.toList.flatMap escaped ++ ['"'])

/-- A number. -/
def Number.text : Number → List Char
  | .integer i _ => (Text.decimal i).toList
  | .real x _ => NumberLayout.json.finiteText x

/-- Texts with commas between them. -/
def commaSeparated : List (List Char) → List Char
  | [] => []
  | [t] => t
  | t :: rest => t ++ ',' :: commaSeparated rest

/-- A document. -/
def text : Json → List Char
  | .null => ['n', 'u', 'l', 'l']
  | .bool true => ['t', 'r', 'u', 'e']
  | .bool false => ['f', 'a', 'l', 's', 'e']
  | .number n => n.text
  | .string s => stringText s
  | .array _ item => '[' :: (commaSeparated (List.ofFn fun i => (item i).text) ++ [']'])
  | .object keys child =>
    '{' :: (commaSeparated (List.ofFn fun i => stringText (keys.key i) ++ ':' :: (child i).text) ++
      ['}'])

/-- A document as a string. -/
def print (j : Json) : String := String.ofList j.text

end Json

end AttributeGateway
