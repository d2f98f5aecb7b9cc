import AttributeGateway.Json.Token
import AttributeGateway.Text.Blank
import AttributeGateway.Url.Basic

/-!
# Domains

A domain is written in many ways and looked up in one. It is percent-decoded, ASCII letters are put
into lower case, fullwidth forms become the ASCII characters that they show, and characters that
show nothing are left out. Other letters outside ASCII are kept as they are.

Main definitions: `Url.prepared`, `Url.domain?`.
-/

namespace AttributeGateway

namespace Url

/-- Percent-decodes a text into bytes. -/
def decode : List Char → List UInt8
  | [] => []
  | '%' :: a :: b :: rest =>
    match Json.hexValue? a, Json.hexValue? b with
    | some x, some y => UInt8.ofNat (x * 16 + y) :: decode rest
    | _, _ => 0x25 :: decode (a :: b :: rest)
  | c :: rest => Text.toBytes (String.singleton c) ++ decode rest

/-! ### Characters -/

/-- The first and last code points of the characters that are left out: hyphens and spaces without
width, joiners, variation selectors, fillers and other marks without a shape. -/
def ignoredRanges : List (Nat × Nat) :=
  [(0xAD, 0xAD), (0x34F, 0x34F), (0x115F, 0x1160), (0x17B4, 0x17B5), (0x180B, 0x180F),
    (0x200B, 0x200B), (0x2060, 0x2064), (0x206A, 0x206F), (0x3164, 0x3164), (0xFE00, 0xFE0F),
    (0xFEFF, 0xFEFF), (0xFFA0, 0xFFA0), (0x1BCA0, 0x1BCA3), (0x1D173, 0x1D17A), (0xE0100, 0xE01EF)]

/-- Whether a character is left out of a domain. -/
def isIgnored (c : Char) : Bool :=
  ignoredRanges.any fun (first, last) => first ≤ c.toNat && c.toNat ≤ last

/-- The character that stands in a domain for a character: a dot for every full stop, ASCII for
fullwidth forms, and small letters for capital ones. -/
def folded (c : Char) : Char :=
  if c = '\u3002' ∨ c = '\uff61' then '.'
  else if 0xFF01 ≤ c.toNat ∧ c.toNat ≤ 0xFF5E then (Char.ofNat (c.toNat - 0xFEE0)).toLower
  else c.toLower

/-- Characters that no host has. -/
def isForbidden (c : Char) : Bool :=
  ['\x00', '\t', '\n', '\r', ' ', '#', '/', ':', '<', '>', '?', '@', '[', '\\', ']', '^',
    '|'].contains c

/-- Characters that no domain has; the last one stands for bytes that are no text. -/
def isForbiddenInDomain (c : Char) : Bool :=
  isForbidden c || Text.isBlank c || c.toNat < 0x20 || (0x7F ≤ c.toNat && c.toNat < 0xA0) ||
    c == '%' || c == '\ufffd'

/-! ### Domains -/

/-- The form in which a domain is looked up. -/
def prepared (text : List Char) : List Char :=
  ((Text.ofBytes (decode text)).toList.filter fun c => !isIgnored c).map folded

/-- The domain that a text stands for. -/
def domain? (text : List Char) : Except Flaw (List Char) :=
  let domain := prepared text
  if domain.isEmpty then .error .emptyHost
  else if domain.any isForbiddenInDomain then .error .badDomain
  else .ok domain

end Url

end AttributeGateway
