import AttributeGateway.Gateway.Lock

/-!
# Permits

A fixed number of permits bounds how many tasks do something at the same time. A task that finds
none waits; waiting tasks are served first come, first served. Permits can be withdrawn for good:
from then on whoever asks or waits is refused.
-/

namespace AttributeGateway

/-- Permits and the tasks that have or want one. -/
structure Permits where
  /-- How many permits nobody has. -/
  free : Nat
  /-- The tasks that have a permit. -/
  held : List TaskId := []
  /-- The tasks that wait for a permit, the one that is served next first. -/
  queue : List TaskId := []
  /-- Whether permits are given no longer. -/
  withdrawn : Bool := false
  deriving DecidableEq, Repr

namespace Permits

/-- Gives free permits to waiting tasks. -/
def serve (p : Permits) : Permits :=
  { p with
    free := p.free - p.queue.length
    held := p.held ++ p.queue.take p.free
    queue := p.queue.drop p.free }

/-- Asks for a permit. -/
def request (p : Permits) (id : TaskId) : Permits := serve { p with queue := p.queue ++ [id] }

/-- Gives a permit back, or stops waiting for one. -/
def leave (p : Permits) (id : TaskId) : Permits :=
  serve { p with
    free := p.free + p.held.count id
    held := p.held.filter (· ≠ id)
    queue := p.queue.filter (· ≠ id) }

/-- Gives no permits any longer. -/
def withdraw (p : Permits) : Permits := { p with withdrawn := true }

end Permits

end AttributeGateway
