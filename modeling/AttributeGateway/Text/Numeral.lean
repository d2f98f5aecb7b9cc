/-!
# Reading integers

Ports, worker counts, sequence indices and integer placeholders are read from text by one rule:
an optional sign (a minus sign only where negative numbers are wanted), then at least one ASCII
digit, nothing else, and a value in the given range. Reading goes from left to right and stops at
the first character that decides the failure: a digit that leaves the range is an overflow even
if a later character is no digit.
-/

namespace AttributeGateway

namespace Text

/-- Why a text is not an integer of the wanted range. -/
inductive NumeralError where
  /-- There is no text. -/
  | empty
  /-- A character is no digit, or there is a sign alone. -/
  | invalidDigit
  /-- The number is above the range. -/
  | tooLarge
  /-- The number is below the range. -/
  | tooSmall
  deriving DecidableEq, Repr

/-- The wording of the failure. -/
def NumeralError.message : NumeralError → String
  | .empty => "cannot parse integer from empty string"
  | .invalidDigit => "invalid digit found in string"
  | .tooLarge => "number too large to fit in target type"
  | .tooSmall => "number too small to fit in target type"

/-- The value of an ASCII digit. -/
def digit? (c : Char) : Option Nat := if c.isDigit then some (c.toNat - 48) else none

/-- Reads digits from left to right onto the value `acc`, which must stay at most `bound`. -/
def readDigits (bound : Nat) (overflow : NumeralError) (acc : Nat) :
    List Char → Except NumeralError Nat
  | [] => .ok acc
  | c :: rest =>
    match digit? c with
    | none => .error .invalidDigit
    | some d =>
      if acc * 10 + d ≤ bound then readDigits bound overflow (acc * 10 + d) rest
      else .error overflow

/-- Reads at least one digit. -/
def readMagnitude (bound : Nat) (overflow : NumeralError) :
    List Char → Except NumeralError Nat
  | [] => .error .invalidDigit
  | digits => readDigits bound overflow 0 digits

/-- Reads a natural number of at most `bound`: an optional plus sign and digits. -/
def readNat (bound : Nat) (text : String) : Except NumeralError Nat :=
  match text.toList with
  | [] => .error .empty
  | '+' :: rest => readMagnitude bound .tooLarge rest
  | digits => readMagnitude bound .tooLarge digits

/-- Reads a 64-bit integer: an optional sign and digits. -/
def readInt64 (text : String) : Except NumeralError Int64 :=
  match text.toList with
  | [] => .error .empty
  | '+' :: rest => (readMagnitude 0x7FFFFFFFFFFFFFFF .tooLarge rest).map fun n => Int64.ofInt n
  | '-' :: rest => (readMagnitude 0x8000000000000000 .tooSmall rest).map fun n => Int64.ofInt (-n)
  | digits => (readMagnitude 0x7FFFFFFFFFFFFFFF .tooLarge digits).map fun n => Int64.ofInt n

/-- The greatest number of a 16-bit word. -/
def maxWord16 : Nat := UInt16.size - 1

/-- The greatest number of a machine word of 64 bits. -/
def maxWord64 : Nat := UInt64.size - 1

/-- The decimal digits of an integer, with a minus sign if it is negative. -/
def decimal (i : Int) : String :=
  match i with
  | .ofNat n => String.ofList (Nat.toDigits 10 n)
  | .negSucc n => String.ofList ('-' :: Nat.toDigits 10 (n + 1))

end Text

end AttributeGateway
