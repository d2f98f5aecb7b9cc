import AttributeGateway.Gateway.Lock
import AttributeGateway.Wire.LineReader

/-!
# Connections

A connection carries the request lines of one client to the server, and the answers back in the
order of the lines. Lines are read ahead: a line is handed out before the lines in front of it have
been answered, up to a bound. Reading stops at the end of input and at a line that is refused; the
lines in front of it are still answered.

Main definitions: `Connection`, `Connection.pull?`, `Connection.await`.
-/

namespace AttributeGateway

/-- The connection with a client. -/
structure Connection where
  /-- Cuts the bytes that have arrived into lines. -/
  reader : LineReader
  /-- Whether lines are still read. -/
  reading : Bool := true
  /-- Whether no bytes arrive any longer. -/
  ended : Bool := false
  /-- The tasks for the lines that have been read and not been answered, in the order of the
  lines. -/
  inFlight : List TaskId := []

namespace Connection

/-- A connection before the first byte. -/
def start (limit : Nat) : Connection := { reader := .start limit }

/-! ### Reading -/

/-- Takes bytes that have arrived, unless the input has ended. -/
def receive (c : Connection) (bytes : List UInt8) : Connection :=
  if c.ended then c else { c with reader := c.reader.feed bytes }

/-- Takes note that no bytes arrive any longer. -/
def endInput (c : Connection) : Connection := { c with ended := true }

/-- Reads no further lines. -/
def stopReading (c : Connection) : Connection := { c with reading := false }

/-- What comes next on a connection. -/
def next (c : Connection) : Except Fault (Option String) × LineReader :=
  if c.ended then c.reader.nextAtEnd else c.reader.next

/-- Reads the next line, or takes note that there is none any more; nothing if more bytes have to
arrive first. -/
def pull? (c : Connection) : Option (Option String × Connection) :=
  match c.next with
  | (.ok (some line), reader) => some (some line, { c with reader })
  | (.ok none, _) => if c.ended then some (none, c.stopReading) else none
  | (.error _, _) => some (none, c.stopReading)

/-- Whether a further line may be read, given how many may be in flight. -/
def hasRoom (c : Connection) (bound : Nat) : Bool := c.reading && c.inFlight.length < bound

/-! ### Answering -/

/-- Takes on the task for a line that has been read. -/
def await (c : Connection) (id : TaskId) : Connection := { c with inFlight := c.inFlight ++ [id] }

/-- Is done with the first of the lines in flight. -/
def settle (c : Connection) : Connection := { c with inFlight := c.inFlight.tail }

/-- Whether all lines that will be read have been answered. -/
def isDone (c : Connection) : Bool := !c.reading && c.inFlight.isEmpty

end Connection

end AttributeGateway
