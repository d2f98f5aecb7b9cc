/-!
# Reading bytes as text

Request lines arrive as bytes. Bytes that are well-formed UTF-8 are read as the characters they
encode; every longest piece that begins like a character and then breaks off is read as one
replacement character, as is every byte that can begin no character. Reading never fails.

A character that has been begun is a `Pending`: the byte values that may follow next (a second
byte is restricted after `E0`, `ED`, `F0` and `F4`, so that no surrogate, no overlong form and
nothing above the last code point is accepted), how many bytes are still due, and the bits read
so far.
-/

namespace AttributeGateway

namespace Text

namespace Utf8

/-- What is read in place of an ill-formed piece. -/
def replacement : Char := '\uFFFD'

/-- A character of which the first bytes have been read. -/
structure Pending where
  /-- The least value that the next byte may have. -/
  low : UInt8
  /-- The greatest value that the next byte may have. -/
  high : UInt8
  /-- How many bytes are due after the next one. -/
  more : Nat
  /-- The bits of the code point read so far. -/
  bits : Nat

/-- What a byte is at the beginning of a character. -/
inductive Lead where
  /-- A whole character. -/
  | whole (c : Char)
  /-- The first byte of a longer character. -/
  | opens (p : Pending)
  /-- A byte that begins no character. -/
  | stray

/-- Classifies the first byte of a character. -/
def lead (b : UInt8) : Lead :=
  if b < 0x80 then .whole (Char.ofNat b.toNat)
  else if b < 0xC2 then .stray
  else if b < 0xE0 then .opens ⟨0x80, 0xBF, 0, b.toNat % 32⟩
  else if b == 0xE0 then .opens ⟨0xA0, 0xBF, 1, 0⟩
  else if b == 0xED then .opens ⟨0x80, 0x9F, 1, 0xD⟩
  else if b < 0xF0 then .opens ⟨0x80, 0xBF, 1, b.toNat % 16⟩
  else if b == 0xF0 then .opens ⟨0x90, 0xBF, 2, 0⟩
  else if b < 0xF4 then .opens ⟨0x80, 0xBF, 2, b.toNat % 8⟩
  else if b == 0xF4 then .opens ⟨0x80, 0x8F, 2, 4⟩
  else .stray

/-- How far reading has come: the characters read, the last one first, and the character that
has been begun, if there is one. -/
structure Reading where
  done : List Char
  pending : Option Pending

/-- Reads a byte where a character begins. -/
def Reading.atStart (done : List Char) (b : UInt8) : Reading :=
  match lead b with
  | .whole c => ⟨c :: done, none⟩
  | .opens p => ⟨done, some p⟩
  | .stray => ⟨replacement :: done, none⟩

/-- Reads one byte. A byte that does not continue the character that has been begun ends that
piece as a replacement character and is itself read as the beginning of a character. -/
def Reading.next (r : Reading) (b : UInt8) : Reading :=
  match r.pending with
  | none => .atStart r.done b
  | some p =>
    if p.low ≤ b ∧ b ≤ p.high then
      let bits := p.bits * 64 + b.toNat % 64
      match p.more with
      | 0 => ⟨Char.ofNat bits :: r.done, none⟩
      | more + 1 => ⟨r.done, some ⟨0x80, 0xBF, more, bits⟩⟩
    else .atStart (replacement :: r.done) b

/-- The characters read when the input ends here. -/
def Reading.close (r : Reading) : List Char :=
  (match r.pending with
    | none => r.done
    | some _ => replacement :: r.done).reverse

end Utf8

/-- The text that the bytes stand for, with one replacement character for each ill-formed piece. -/
def ofBytes (bytes : List UInt8) : String :=
  String.ofList (bytes.foldl Utf8.Reading.next ⟨[], none⟩).close

/-- The bytes of a text. -/
def toBytes (text : String) : List UInt8 := text.toUTF8.toList

/-- The text that the bytes stand for, if they are well formed throughout. -/
def ofBytes? (bytes : List UInt8) : Option String :=
  let text := ofBytes bytes
  if toBytes text = bytes then some text else none

end Text

end AttributeGateway
