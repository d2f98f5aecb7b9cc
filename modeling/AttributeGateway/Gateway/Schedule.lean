import AttributeGateway.Gateway.System

/-!
# Schedules

How tasks share one thread. A task that has been started runs until it has to wait: for a lock, for
a permit, or for an operation of the remote side that takes time. Tasks that may go on do so in the
order in which that became possible. When none may, the operation of the remote side that has been
waited for longest ends.

Main definitions: `Schedule.start`, `Schedule.settle`, `Schedule.finish`, `Gateway.perform`.
-/

namespace AttributeGateway

/-- Tasks of a gateway on one thread. -/
structure Schedule (ρ τ σ : Type) where
  system : System ρ τ σ
  /-- The tasks that may go on, the one that does so next first. -/
  ready : List TaskId := []
  /-- The tasks that wait for the remote side, the one that has waited longest first. -/
  sleeping : List TaskId := []

/-- The tasks that have been given a lock or a permit, or are refused one. -/
def Gateway.served {ρ σ : Type} (g : Gateway ρ σ) : List TaskId :=
  g.holders.flatMap (fun h => h.lock.held.map Prod.fst) ++ g.workers.held ++
    if g.workers.withdrawn then g.workers.queue else []

namespace Schedule

variable {ρ τ σ : Type} [Remote ρ τ σ]

/-- More steps than a task can take: a request takes a bounded number of steps for each of its
queries, of which there are fewer than the line has characters, and clearing takes a bounded number
of steps for each cached holder. -/
def patience (g : Gateway ρ σ) (t : Task τ σ) : Nat :=
  match t.activity with
  | .beginning (.answer line) | .beginning (.submit line) | .queueing line =>
    40 * (line.length + 2)
  | .requesting (.connecting r _ _) _ | .requesting (.fetching r _) _
  | .returning (.connecting r _ _) _ _ | .returning (.fetching r _) _ _ =>
    40 * (r.rest.length + 2)
  | .sweeping urls | .clearing _ urls => 10 * (urls.length + 2)
  | _ => 10 * (g.cache.size + 8)

/-- Whether a task can take a step. -/
def canGoOn (s : Schedule ρ τ σ) (id : TaskId) : Bool := (s.system.advance? id).isSome

/-- Takes note of the tasks that may go on now and could not before. -/
def rouse (s : Schedule ρ τ σ) (running : Option TaskId) : Schedule ρ τ σ :=
  let roused := s.system.gateway.served.eraseDups.filter fun id =>
    some id != running && !s.ready.contains id && !s.sleeping.contains id && s.canGoOn id
  { s with ready := s.ready ++ roused }

/-- Takes one step of a task. -/
def step? (s : Schedule ρ τ σ) (id : TaskId) : Option (Schedule ρ τ σ) := do
  let system ← s.system.advance? id
  return rouse { s with system } (some id)

/-- Whether a task waits for the remote side before its next step. -/
def mustSleep (s : Schedule ρ τ σ) (id : TaskId) : Bool :=
  (s.system.task? id).any fun t => t.activity.takesTime s.system.gateway.remote

/-- Runs a task until it has to wait or ends, for at most a number of steps. -/
def run (id : TaskId) : Nat → Schedule ρ τ σ → Schedule ρ τ σ
  | 0, s => s
  | steps + 1, s =>
    if s.mustSleep id then { s with sleeping := s.sleeping ++ [id] }
    else
      match s.step? id with
      | some s => run id steps s
      | none => s

/-- Goes on with a task until it has to wait or ends. -/
def goOn (s : Schedule ρ τ σ) (id : TaskId) : Schedule ρ τ σ :=
  match s.system.task? id with
  | some t => run id (patience s.system.gateway t) s
  | none => s

/-- Ends what a task has waited for at the remote side, and goes on with it. -/
def wake (s : Schedule ρ τ σ) (id : TaskId) : Schedule ρ τ σ :=
  let s := { s with sleeping := s.sleeping.filter (· ≠ id) }
  match s.step? id with
  | some s => s.goOn id
  | none => s

/-- Starts the task of an operation, which gets the next number. -/
def start (s : Schedule ρ τ σ) (op : Operation σ) : Schedule ρ τ σ :=
  { s with system := s.system.begin op }.goOn s.system.tasks.length

/-- Drops a task. -/
def abandon (s : Schedule ρ τ σ) (id : TaskId) : Schedule ρ τ σ :=
  rouse {
    system := s.system.abandon id
    ready := s.ready.filter (· ≠ id)
    sleeping := s.sleeping.filter (· ≠ id) } none

/-- The steps that all tasks together can take at most. -/
def horizon (s : Schedule ρ τ σ) : Nat :=
  s.system.tasks.foldl (fun n t => n + t.elim 0 (patience s.system.gateway)) 0

/-- Goes on with tasks, for at most a number of times. Whether operations of the remote side come to
an end meanwhile is given. -/
def turns (ending : Bool) : Nat → Schedule ρ τ σ → Schedule ρ τ σ
  | 0, s => s
  | n + 1, s =>
    match s.ready, s.sleeping with
    | id :: ready, _ => turns ending n ({ s with ready }.goOn id)
    | [], id :: _ => if ending then turns ending n (s.wake id) else s
    | [], [] => s

/-- Goes on until all tasks have ended or wait. -/
def settle (s : Schedule ρ τ σ) : Schedule ρ τ σ := turns false s.horizon s

/-- Goes on until all tasks have ended, or none can go on. -/
def finish (s : Schedule ρ τ σ) : Schedule ρ τ σ := turns true s.horizon s

end Schedule

/-- What an operation comes to with nothing else going on, and the gateway afterwards. -/
def Gateway.perform {ρ τ σ : Type} [Remote ρ τ σ] (g : Gateway ρ σ) (op : Operation σ) :
    Option (Result σ) × Gateway ρ σ :=
  let s := (Schedule.start { system := { gateway := g } } op).finish
  (s.system.result? 0, s.system.gateway)

end AttributeGateway
