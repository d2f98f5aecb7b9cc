import AttributeGateway.Url.Domain

/-!
# Hosts

The host of a URL is a domain, an IPv4 address or an IPv6 address. A domain whose last label is a
number is an IPv4 address, of which each part may be written in decimal, octal or hexadecimal
digits.
-/

namespace AttributeGateway

namespace Url

/-- The parts of a text between the occurrences of a character. -/
def splitAt (c : Char) (text : List Char) : List (List Char) :=
  text.foldr (fun d parts =>
    if d = c then [] :: parts
    else
      match parts with
      | part :: rest => (d :: part) :: rest
      | [] => [[d]]) [[]]

/-! ### IPv4 -/

/-- The value of digits in a base, if all of them are digits of it. -/
def inBase? (base : Nat) (digits : List Char) : Option Nat :=
  digits.foldlM (fun n c => (Json.hexValue? c).bind fun d =>
    if d < base then some (n * base + d) else none) 0

/-- The number that a part of an address stands for. -/
def ipv4Part? : List Char → Option Nat
  | [] => none
  | '0' :: 'x' :: digits => inBase? 16 digits
  | '0' :: 'X' :: digits => inBase? 16 digits
  | '0' :: d :: digits => inBase? 8 (d :: digits)
  | digits => inBase? 10 digits

/-- Whether the last label of a host, before one final dot, is a number. -/
def endsInNumber (labels : List (List Char)) : Bool :=
  let labels := if labels.getLast? = some [] then labels.dropLast else labels
  match labels.getLast? with
  | some [] => false
  | some label => label.all Char.isDigit || (label.take 2 == ['0', 'x'] && (ipv4Part? label).isSome)
  | none => false

/-- The dotted text of an IPv4 address. -/
def ipv4Text (n : Nat) : String :=
  let parts : List Nat := [n / 0x1000000, n / 0x10000 % 0x100, n / 0x100 % 0x100, n % 0x100]
  String.intercalate "." (parts.map fun (k : Nat) => Text.decimal k)

/-- The IPv4 address of labels: the last part fills what the others leave. -/
def ipv4? (labels : List (List Char)) : Option Nat := do
  let labels := if 1 < labels.length ∧ labels.getLast? = some [] then labels.dropLast else labels
  let parts ← labels.mapM ipv4Part?
  let last ← parts.getLast?
  let leading := parts.dropLast
  if 3 < leading.length ∨ leading.any (255 < ·) ∨ Nat.pow 256 (4 - leading.length) ≤ last then none
  else some (leading.zipIdx.foldl (fun n (p, i) => n + p * Nat.pow 256 (3 - i)) last)

/-! ### IPv6 -/

/-- The number below 256 that digits without a leading zero stand for. -/
def octet? (digits : List Char) : Option Nat := do
  let n ← if digits.isEmpty then none else inBase? 10 digits
  if 255 < n ∨ (digits.head? = some '0' ∧ 1 < digits.length) then none else some n

/-- The pieces of 16 bits that the groups of an address stand for; the last group may be an IPv4
address. -/
def pieces? : List (List Char) → Option (List Nat)
  | [] => some []
  | [group] =>
    if group.contains '.' then do
      match ← (splitAt '.' group).mapM octet? with
      | [a, b, c, d] => some [a * 256 + b, c * 256 + d]
      | _ => none
    else if group.isEmpty || 4 < group.length then none
    else (inBase? 16 group).map ([·])
  | group :: groups => do
    if group.isEmpty || 4 < group.length then none
    else return (← inBase? 16 group) :: (← pieces? groups)

/-- The texts before and after the first pair of colons. -/
def splitDouble : List Char → Option (List Char × List Char)
  | ':' :: ':' :: rest => some ([], rest)
  | c :: rest => (splitDouble rest).map fun (a, b) => (c :: a, b)
  | [] => none

/-- The pieces of one side of a pair of colons. -/
def side? (text : List Char) : Option (List Nat) :=
  if text.isEmpty then some [] else pieces? (splitAt ':' text)

/-- The eight pieces of an IPv6 address. A pair of colons stands for pieces of zero. -/
def ipv6? (text : List Char) : Option (List Nat) :=
  match splitDouble text with
  | none => do
    let pieces ← side? text
    if pieces.length = 8 then some pieces else none
  | some (a, b) => do
    let a ← side? a
    let b ← side? b
    if a.length + b.length ≤ 7 then
      some (a ++ List.replicate (8 - a.length - b.length) 0 ++ b)
    else none

/-- How many pieces of zero a list begins with. -/
def zeros (pieces : List Nat) : Nat := (pieces.takeWhile (· == 0)).length

/-- The text of pieces. -/
def piecesText (pieces : List Nat) : String :=
  String.intercalate ":" (pieces.map fun n => String.ofList (Text.hexDigits n))

/-- The text of an IPv6 address: the first of the longest runs of two or more zeros is left out. -/
def ipv6Text (pieces : List Nat) : String :=
  let runs := (List.range 8).map fun i => zeros (pieces.drop i)
  let longest := runs.foldl max 0
  let i := runs.findIdx (· == longest)
  if longest < 2 then "[" ++ piecesText pieces ++ "]"
  else
    "[" ++ piecesText (pieces.take i) ++ "::" ++ piecesText (pieces.drop (i + longest)) ++ "]"

/-! ### All of them -/

/-- The host that a text stands for. -/
def host? (text : List Char) : Except Flaw String :=
  match text with
  | '[' :: inner =>
    match if inner.getLast? = some ']' then ipv6? inner.dropLast else none with
    | some pieces => .ok (ipv6Text pieces)
    | none => .error .badIpv6
  | text => do
    let domain ← domain? text
    let labels := splitAt '.' domain
    if endsInNumber labels then
      match ipv4? labels with
      | some n => return ipv4Text n
      | none => throw .badIpv4
    else return String.ofList domain

/-- Refuses a text that is no host under a scheme of no known kind. -/
def checkOpaque (text : List Char) : Except Flaw Unit :=
  match text with
  | '[' :: inner =>
    if inner.getLast? = some ']' ∧ (ipv6? inner.dropLast).isSome then .ok () else .error .badIpv6
  | text => if text.any isForbidden then .error .badHostCharacter else .ok ()

end Url

end AttributeGateway
