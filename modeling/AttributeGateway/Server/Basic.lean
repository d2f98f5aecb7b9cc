import AttributeGateway.Config.Basic
import AttributeGateway.Gateway.System
import AttributeGateway.Server.Connection

/-!
# Servers

A server accepts clients as long as there is a place for one, reads their lines, has each line
answered by a task of its own, and writes the answers. The tasks of all clients share the permits of
the gateway. A client is given up when it is cut off: its tasks are dropped where they stand.

A server that is told to stop accepts no clients any longer and cuts off those that are there; once
all are gone, it empties the cache of the gateway.

What can happen to a server is an `Event`. As for tasks, nothing is said about the order of events.

Main definitions: `Server`, `Server.start?`, `Server.after?`, `Server.Run`.
-/

namespace AttributeGateway

/-- The number of a client. Clients are numbered in the order in which they are accepted. -/
abbrev ClientId := Nat

/-- How far a server has come. -/
inductive Phase where
  /-- Clients are accepted. -/
  | serving
  /-- No clients are accepted any longer. -/
  | closing
  /-- All clients are gone, and a task empties the cache. -/
  | draining (id : TaskId)
  /-- Nothing happens any more. -/
  | stopped
  deriving DecidableEq, Repr

/-- A server for clients of a gateway. -/
structure Server (ρ τ σ : Type) where
  config : Config
  /-- The gateway and the tasks that answer lines. -/
  system : System ρ τ σ
  /-- The connections of the clients that have been accepted and have not left. -/
  clients : Table ClientId Connection := ∅
  /-- How many more clients can be accepted. -/
  places : Nat
  /-- How many clients have been accepted. -/
  accepted : Nat := 0
  /-- The answers that have been written, each with the client that it was written to. -/
  output : List (ClientId × Response) := []
  phase : Phase := .serving

/-- The greatest number of permits that can be counted. -/
def Permits.capacity : Nat := 0x1FFFFFFFFFFFFFFF

/-- The permits for requests and the places for clients can be counted. -/
abbrev Config.Countable (c : Config) : Prop :=
  c.workers.toNat ≤ Permits.capacity ∧ c.maxClients.toNat ≤ Permits.capacity

namespace Server

variable {ρ τ σ : Type} [Remote ρ τ σ]

/-- A server without clients. There is none if its permits or places cannot be counted. -/
def start? (config : Config) (remote : ρ) : Option (Server ρ τ σ) :=
  if config.Countable then
    some {
      config
      system := { gateway := { remote, workers := ⟨config.workers.toNat, [], [], false⟩ } }
      places := config.maxClients.toNat }
  else none

/-- The connection of a client. -/
def client? (s : Server ρ τ σ) (id : ClientId) : Option Connection := s.clients.get? id

/-- The bytes that have been written to a client. -/
def written (s : Server ρ τ σ) (id : ClientId) : List UInt8 :=
  (s.output.filter fun o => o.1 = id).flatMap fun o => o.2.encode

/-- Changes the connection of a client. -/
def modifyClient (s : Server ρ τ σ) (id : ClientId) (f : Connection → Connection) :
    Server ρ τ σ :=
  { s with clients := s.clients.modify id f }

/-- Counts in the metrics. -/
def count (s : Server ρ τ σ) (f : Metrics → Metrics) : Server ρ τ σ :=
  { s with system.gateway := s.system.gateway.count f }

/-! ### Coming and leaving -/

/-- Accepts a client if there is a place, and says which one it is; turns it away if there is
none. -/
def connect (s : Server ρ τ σ) : Option ClientId × Server ρ τ σ :=
  match s.places with
  | 0 => (none, s)
  | places + 1 =>
    let id := s.accepted + 1
    (some id, { s with
      clients := s.clients.insert id (.start s.config.maxLineLength.toNat)
      places
      accepted := id }.count fun m => { m with
        connectionsReceived := m.connectionsReceived + 1
        connectedClients := m.connectedClients + 1 })

/-- Forgets a client and gives its place back. -/
def forget (s : Server ρ τ σ) (id : ClientId) : Server ρ τ σ :=
  { s with clients := s.clients.erase id, places := s.places + 1 }.count fun m =>
    { m with connectedClients := m.connectedClients - 1 }

/-- Lets a client go when all that it has asked has been answered. -/
def leave? (s : Server ρ τ σ) (id : ClientId) : Option (Server ρ τ σ) := do
  let c ← s.client? id
  if c.isDone then some (s.forget id) else none

/-- Cuts a client off: the tasks for its lines are dropped. -/
def cut? (s : Server ρ τ σ) (id : ClientId) : Option (Server ρ τ σ) := do
  let c ← s.client? id
  return { s with system := c.inFlight.foldl System.abandon s.system }.forget id

/-! ### Lines and answers -/

/-- Reads the next line of a client and begins to answer it, or reads that there is none any
more. -/
def read? (s : Server ρ τ σ) (id : ClientId) : Option (Server ρ τ σ) := do
  let c ← s.client? id
  if c.hasRoom s.config.maxPipelined.toNat then
    match ← c.pull? with
    | (some line, c) =>
      return { s with
        clients := s.clients.insert id (c.await s.system.tasks.length)
        system := s.system.begin (.submit line) }
    | (none, c) => return { s with clients := s.clients.insert id c }
  else none

/-- Writes the answer to the first line of a client that has not been answered, once there is
one. -/
def answer? (s : Server ρ τ σ) (id : ClientId) : Option (Server ρ τ σ) := do
  let c ← s.client? id
  match s.system.result? (← c.inFlight.head?) with
  | some (.answered r) =>
    return { s with clients := s.clients.insert id c.settle, output := s.output ++ [(id, r)] }
  | _ => none

/-! ### Stopping -/

/-- Begins to empty the cache when all clients are gone. -/
def drain? (s : Server ρ τ σ) : Option (Server ρ τ σ) :=
  if s.phase = .closing ∧ s.clients.isEmpty then
    some { s with phase := .draining s.system.tasks.length, system := s.system.begin .drain }
  else none

/-- Stops when the cache has been emptied. -/
def finish? (s : Server ρ τ σ) : Option (Server ρ τ σ) :=
  match s.phase with
  | .draining id =>
    if (s.system.result? id).isSome then some { s with phase := .stopped } else none
  | _ => none

/-! ### Events -/

/-- Something that happens to a server. -/
inductive Event (ρ : Type) where
  /-- A client asks to be accepted. -/
  | connect
  /-- Bytes of a client arrive. -/
  | receive (id : ClientId) (bytes : List UInt8)
  /-- A client ends its input. -/
  | endInput (id : ClientId)
  /-- Reading from a client fails. -/
  | failInput (id : ClientId)
  /-- The next line of a client is read. -/
  | read (id : ClientId)
  /-- The next answer for a client is written. -/
  | answer (id : ClientId)
  /-- A client goes when it has been answered. -/
  | leave (id : ClientId)
  /-- A client is cut off. -/
  | cut (id : ClientId)
  /-- A task takes its next step. -/
  | advance (id : TaskId)
  /-- The remote side changes by itself. -/
  | alter (change : ρ → ρ)
  /-- The permits for requests are withdrawn. -/
  | withdraw
  /-- The server is told to stop. -/
  | stop
  /-- The server begins to empty the cache. -/
  | drain
  /-- The server has stopped. -/
  | finish

/-- What a server becomes when something happens to it, if it can happen. -/
def after? (s : Server ρ τ σ) : Event ρ → Option (Server ρ τ σ)
  | .connect => if s.phase = .serving then some s.connect.2 else none
  | .receive id bytes => some (s.modifyClient id (·.receive bytes))
  | .endInput id => some (s.modifyClient id .endInput)
  | .failInput id => some (s.modifyClient id .stopReading)
  | .read id => s.read? id
  | .answer id => s.answer? id
  | .leave id => s.leave? id
  | .cut id => s.cut? id
  | .advance id => (s.system.advance? id).map fun system => { s with system }
  | .alter change => some { s with system.gateway.remote := change s.system.gateway.remote }
  | .withdraw => some { s with system.gateway.workers := s.system.gateway.workers.withdraw }
  | .stop => if s.phase = .serving then some { s with phase := .closing } else none
  | .drain => s.drain?
  | .finish => s.finish?

/-- Things that can happen to a server one after the other. -/
abbrev Run : Server ρ τ σ → List (Event ρ) → Server ρ τ σ → Prop := AttributeGateway.Run after?

/-- A server that can come about with a configuration and a remote side. -/
def Reachable (config : Config) (remote : ρ) (s : Server ρ τ σ) : Prop :=
  ∃ s₀ es, start? config remote = some s₀ ∧ Run s₀ es s

end Server

end AttributeGateway
