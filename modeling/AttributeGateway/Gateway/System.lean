import AttributeGateway.Gateway.Task
import AttributeGateway.Run

/-!
# Systems of tasks

What can happen when tasks share a gateway: any task may take its next step at any time, new tasks
may begin, and a task may be dropped where it stands. Nothing is said about the order, and an
operation of the remote side may take as long as it likes.

Main definitions: `System`, `System.after?`, `System.Run`.
-/

namespace AttributeGateway

/-- A gateway and the tasks that have begun. -/
structure System (ρ τ σ : Type) where
  gateway : Gateway ρ σ
  /-- The tasks that have begun, by number; none for a task that has been dropped. -/
  tasks : List (Option (Task τ σ)) := []

/-- Something that happens to a system. -/
inductive Event (ρ σ : Type) where
  /-- An operation is asked for. -/
  | begin (op : Operation σ)
  /-- A task takes its next step. -/
  | advance (id : TaskId)
  /-- A task is dropped where it stands. -/
  | abandon (id : TaskId)
  /-- A holder is looked up, and made if there is none. -/
  | acquire (url : String)
  /-- A holder is made outside the cache. -/
  | addHolder (url : String)
  /-- The remote side changes by itself. -/
  | alter (change : ρ → ρ)
  /-- The permits are withdrawn. -/
  | withdraw

namespace System

variable {ρ τ σ : Type} [Remote ρ τ σ]

/-- The task with a number, unless it has been dropped. -/
def task? (s : System ρ τ σ) (id : TaskId) : Option (Task τ σ) := (s.tasks[id]?).join

/-- The result of a task. -/
def result? (s : System ρ τ σ) (id : TaskId) : Option (Result σ) :=
  (s.task? id).bind (·.activity.result?)

/-- Begins an operation. -/
def begin (s : System ρ τ σ) (op : Operation σ) : System ρ τ σ :=
  { s with tasks := s.tasks ++ [some (.ofOperation op)] }

/-- Takes the next step of a task. -/
def advance? (s : System ρ τ σ) (id : TaskId) : Option (System ρ τ σ) := do
  let t ← s.task? id
  let (gateway, t) ← t.step id s.gateway
  return { gateway, tasks := s.tasks.set id (some t) }

/-- Drops a task. -/
def abandon (s : System ρ τ σ) (id : TaskId) : System ρ τ σ :=
  match s.task? id with
  | some t => { gateway := t.abandon id s.gateway, tasks := s.tasks.set id none }
  | none => s

/-- What a system becomes when something happens to it, if it can happen. -/
def after? (s : System ρ τ σ) : Event ρ σ → Option (System ρ τ σ)
  | .begin op => some (s.begin op)
  | .advance id => s.advance? id
  | .abandon id => some (s.abandon id)
  | .acquire url => some { s with gateway := (s.gateway.acquire url).2 }
  | .addHolder url => some { s with gateway := (s.gateway.addHolder url).2 }
  | .alter change => some { s with gateway.remote := change s.gateway.remote }
  | .withdraw => some { s with gateway.workers := s.gateway.workers.withdraw }

/-- Things that can happen to a system one after the other. -/
abbrev Run : System ρ τ σ → List (Event ρ σ) → System ρ τ σ → Prop := AttributeGateway.Run after?

/-- A system that a gateway without tasks can get into. -/
def Reachable (g : Gateway ρ σ) (s : System ρ τ σ) : Prop := ∃ es, Run { gateway := g } es s

end System

end AttributeGateway
