import AttributeGateway.Fault
import AttributeGateway.Text.Utf8

/-!
# Cutting a byte stream into lines

Requests arrive as a stream of bytes, in pieces of any size. A `LineReader` holds the bytes that
have not been handed out as lines, and how many of them it has already searched for a line feed, so
that no byte is searched twice. A line ends at a line feed; one carriage return before it does not
belong to the line.

A line longer than the limit is refused, whether or not its end has arrived. The refusal leaves the
bytes in place, so that it is final.

Main definitions: `LineReader.feed`, `LineReader.next`, `LineReader.nextAtEnd`, `LineReader.drain`.
-/

namespace AttributeGateway

/-- The line feed. -/
def lineFeed : UInt8 := 0x0A

/-- The carriage return. -/
def carriageReturn : UInt8 := 0x0D

/-- The state of reading lines. -/
structure LineReader where
  /-- The greatest number of bytes in a line. -/
  limit : Nat
  /-- The bytes that have not been handed out. -/
  buffer : List UInt8
  /-- How many bytes of the buffer are known to hold no line feed. -/
  searched : Nat

namespace LineReader

/-- The limit unless another one is configured: 1 MiB. -/
def defaultLimit : Nat := 1024 * 1024

/-- A reader before the first byte. -/
def start (limit : Nat) : LineReader := ⟨limit, [], 0⟩

/-- Appends bytes that have arrived. -/
def feed (r : LineReader) (bytes : List UInt8) : LineReader :=
  { r with buffer := r.buffer ++ bytes }

/-- Keeps only the first bytes of the buffer; what has been searched is not taken back. -/
def truncate (r : LineReader) (length : Nat) : LineReader :=
  { r with buffer := r.buffer.take length }

/-- The text of a line, without a carriage return at its end. -/
def lineText (bytes : List UInt8) : String :=
  Text.ofBytes (if bytes.getLast? = some carriageReturn then bytes.dropLast else bytes)

/-- The position of the first line feed at or after a position. -/
def findEnd (from_ : Nat) (bytes : List UInt8) : Option Nat :=
  ((bytes.drop from_).findIdx? (· == lineFeed)).map (· + from_)

/-- Hands out the next line if its end has arrived. -/
def next (r : LineReader) : Except Fault (Option String) × LineReader :=
  match findEnd (min r.searched r.buffer.length) r.buffer with
  | some stop =>
    if r.limit < stop then (.error (.lineTooLong r.limit), r)
    else
      (.ok (some (lineText (r.buffer.take stop))),
        { r with buffer := r.buffer.drop (stop + 1), searched := 0 })
  | none =>
    if r.limit < r.buffer.length then (.error (.lineTooLong r.limit), r)
    else (.ok none, { r with searched := r.buffer.length })

/-- Hands out the next line when no more bytes will arrive: what is left over is a line without
an end. -/
def nextAtEnd (r : LineReader) : Except Fault (Option String) × LineReader :=
  match r.next with
  | (.ok none, r') =>
    if r'.buffer.isEmpty then (.ok none, r')
    else (.ok (some (lineText r'.buffer)), { r' with buffer := [], searched := 0 })
  | answer => answer

/-- A line that is handed out takes at least one byte off the buffer. -/
theorem length_of_next {r r' : LineReader} {line : String} (h : r.next = (.ok (some line), r')) :
    r'.buffer.length < r.buffer.length := by
  unfold next at h
  split at h
  · next stop hs =>
    split at h
    · simp at h
    · simp only [Prod.mk.injEq, Except.ok.injEq, Option.some.injEq] at h
      obtain ⟨-, rfl⟩ := h
      have hb : stop < r.buffer.length := by
        simp only [findEnd, Option.map_eq_some_iff] at hs
        obtain ⟨i, hi, rfl⟩ := hs
        obtain ⟨hi, -⟩ := List.findIdx?_eq_some_iff_getElem.1 hi
        simp only [List.length_drop] at hi
        omega
      simp only [List.length_drop]
      omega
  · split at h <;> simp at h

/-- Hands out lines until none is complete or one is refused, behind the lines handed out before,
the last one first. -/
def drainOnto (read : List String) (r : LineReader) : List String × Option Fault × LineReader :=
  match h : r.next with
  | (.ok (some line), r') =>
    have := length_of_next h
    drainOnto (line :: read) r'
  | (.ok none, r') => (read.reverse, none, r')
  | (.error f, r') => (read.reverse, some f, r')
termination_by r.buffer.length

/-- Hands out all complete lines, up to one that is refused. -/
def drain (r : LineReader) : List String × Option Fault × LineReader := r.drainOnto []

end LineReader

end AttributeGateway
