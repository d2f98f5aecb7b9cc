/-!
# Fair locks

A lock is held either by one task alone or by any number of tasks that share it. Tasks that cannot
have it at once wait in a queue and are served first come, first served: a task that would share the
lock queues behind one that waits to have it alone.
-/

namespace AttributeGateway

/-- The number of a task. -/
abbrev TaskId := Nat

/-- How a lock is held. -/
inductive LockMode where
  /-- Together with others that share it. -/
  | shared
  /-- Alone. -/
  | exclusive
  deriving DecidableEq, Repr

/-- A fair lock. -/
structure Lock where
  /-- The tasks that hold the lock, and how. -/
  held : List (TaskId × LockMode) := []
  /-- The tasks that wait for the lock, the one that is served next first. -/
  queue : List (TaskId × LockMode) := []
  deriving DecidableEq, Repr

namespace Lock

/-- Whether a lock can be given to a further task while others hold it. -/
def admits (held : List (TaskId × LockMode)) : LockMode → Bool
  | .shared => held.all fun h => h.2 == .shared
  | .exclusive => held.isEmpty

/-- Gives the lock to waiting tasks, up to the first one that cannot have it yet. -/
def serve (held : List (TaskId × LockMode)) : List (TaskId × LockMode) → Lock
  | [] => ⟨held, []⟩
  | t :: queue => if admits held t.2 then serve (held ++ [t]) queue else ⟨held, t :: queue⟩

/-- Asks for the lock: it is given at once if nobody waits and those who hold it admit it. -/
def request (l : Lock) (id : TaskId) (mode : LockMode) : Lock :=
  serve l.held (l.queue ++ [(id, mode)])

/-- Gives the lock back, or stops waiting for it. -/
def leave (l : Lock) (id : TaskId) : Lock :=
  serve (l.held.filter fun h => h.1 ≠ id) (l.queue.filter fun h => h.1 ≠ id)

/-- Goes on sharing a lock that has been held alone. -/
def downgrade (l : Lock) (id : TaskId) : Lock :=
  serve (l.held.map fun h => if h.1 = id then (id, .shared) else h) l.queue

/-- Whether a task holds the lock in a mode. -/
def holds (l : Lock) (id : TaskId) (mode : LockMode) : Bool := l.held.contains (id, mode)

end Lock

end AttributeGateway
