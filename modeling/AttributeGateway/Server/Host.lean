import AttributeGateway.Gateway.Schedule
import AttributeGateway.Server.Basic

/-!
# Hosts

How the clients of a server and their tasks share one thread. Whatever can be done at once is done:
tasks go on, answers are written, lines are read. For each client answers come before further lines,
and a task that begins goes on until it has to wait. When nothing can be done, a host waits for
clients, or for an operation of the remote side to end.

Main definitions: `Host`, `Host.settle`, `Host.runUntil`, `Host.stop`.
-/

namespace AttributeGateway

/-- A server on one thread. -/
structure Host (ρ τ σ : Type) where
  server : Server ρ τ σ
  /-- The tasks that may go on, the one that does so next first. -/
  ready : List TaskId := []
  /-- The tasks that wait for the remote side, the one that has waited longest first. -/
  sleeping : List TaskId := []

namespace Host

variable {ρ τ σ : Type} [Remote ρ τ σ]

/-! ### What can be done at once -/

/-- Lets tasks go on. -/
def work (h : Host ρ τ σ) (f : Schedule ρ τ σ → Schedule ρ τ σ) : Host ρ τ σ :=
  let s := f ⟨h.server.system, h.ready, h.sleeping⟩
  ⟨{ h.server with system := s.system }, s.ready, s.sleeping⟩

/-- Goes on from another state of the server, with the task that has begun if there is one. -/
def goOn (h : Host ρ τ σ) (server : Server ρ τ σ) : Host ρ τ σ :=
  work { h with server } fun s => s.goOn h.server.system.tasks.length

/-- Does the next thing that can be done for a client. -/
def attend? (h : Host ρ τ σ) (id : ClientId) : Option (Host ρ τ σ) :=
  (h.server.answer? id <|> h.server.read? id <|> h.server.leave? id).map h.goOn

/-- Does the next thing that can be done at once. -/
def step? (h : Host ρ τ σ) : Option (Host ρ τ σ) :=
  if h.ready.isEmpty then h.server.clients.keys.findSome? h.attend? else some (h.work .settle)

/-- Does what can be done at once, for at most a number of steps. -/
def steps : Nat → Host ρ τ σ → Host ρ τ σ
  | 0, h => h
  | n + 1, h =>
    match h.step? with
    | some h => steps n h
    | none => h

/-- How much may have to be done for the clients: each byte may end a line, which is read and
answered, and tasks may go on before each of that. -/
def weight (h : Host ρ τ σ) : Nat :=
  h.server.clients.entries.foldl (fun n e =>
    n + 4 * e.2.reader.buffer.length + 4 * e.2.inFlight.length + 8) 2

/-- Does all that can be done at once. -/
def settle (h : Host ρ τ σ) : Host ρ τ σ := h.steps h.weight

/-- Changes the server from outside, and does what can be done then. -/
def modify (h : Host ρ τ σ) (f : Server ρ τ σ → Server ρ τ σ) : Host ρ τ σ :=
  settle { h with server := f h.server }

/-! ### Waiting -/

/-- Ends the operation of the remote side that a task waits for. -/
def wake (h : Host ρ τ σ) (id : TaskId) : Host ρ τ σ := settle (h.work (·.wake id))

/-- Goes on until enough has been done, or no task waits for the remote side, for at most a number
of operations of the remote side. -/
def turnsUntil (enough : Host ρ τ σ → Bool) : Nat → Host ρ τ σ → Host ρ τ σ
  | 0, h => h
  | n + 1, h =>
    if enough h then h
    else
      match h.sleeping with
      | id :: _ => turnsUntil enough n (h.wake id)
      | [] => h

/-- More operations of the remote side than tasks can take that have begun, or that will begin for
bytes that have arrived. -/
def horizon (h : Host ρ τ σ) : Nat :=
  (Schedule.horizon ⟨h.server.system, h.ready, h.sleeping⟩) + 40 * h.weight

/-- Goes on until enough has been done, or no task waits for the remote side. Operations of the
remote side end only as long as not enough has been done. -/
def runUntil (h : Host ρ τ σ) (enough : Host ρ τ σ → Bool) : Host ρ τ σ :=
  h.turnsUntil enough h.horizon

/-! ### Giving clients up, and stopping -/

/-- Takes note of the tasks that have been dropped, and of those that may go on for it. -/
def forgetDropped (h : Host ρ τ σ) : Host ρ τ σ :=
  let present (id : TaskId) : Bool := (h.server.system.task? id).isSome
  work { h with ready := h.ready.filter present, sleeping := h.sleeping.filter present }
    (·.rouse none)

/-- Cuts a client off. -/
def cut (h : Host ρ τ σ) (id : ClientId) : Host ρ τ σ :=
  match h.server.cut? id with
  | some server => settle (forgetDropped { h with server })
  | none => h

/-- Withdraws the permits for requests. -/
def withdraw (h : Host ρ τ σ) : Host ρ τ σ :=
  match h.server.after? .withdraw with
  | some server => settle (work { h with server } (·.rouse none))
  | none => h

/-- Cuts off a client of a server that accepts no clients any longer; nothing more is done for the
others. -/
def dismiss (h : Host ρ τ σ) (id : ClientId) : Host ρ τ σ :=
  match h.server.cut? id with
  | some server => forgetDropped { h with server }
  | none => h

/-- Begins to stop: all clients are cut off, and the cache is being emptied. -/
def close (h : Host ρ τ σ) : Host ρ τ σ :=
  match h.server.after? .stop with
  | some server =>
    let h := server.clients.keys.foldl dismiss { h with server }
    match h.server.drain? with
    | some server => h.goOn server
    | none => h
  | none => h

/-- Whether the cache has been emptied. -/
def isDrained (h : Host ρ τ σ) : Bool := h.server.finish?.isSome

/-- Stops the server. -/
def stop (h : Host ρ τ σ) : Host ρ τ σ :=
  let h := h.close.runUntil isDrained
  match h.server.finish? with
  | some server => { h with server }
  | none => h

end Host

end AttributeGateway
