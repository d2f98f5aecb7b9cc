import AttributeGateway.Gateway.Access
import AttributeGateway.Path.Resolve
import AttributeGateway.Request.Command
import AttributeGateway.Value.Json
import AttributeGateway.Wire.Response

/-!
# Tasks

What a gateway is asked to do is an `Operation`; a `Task` is an operation under way. A task takes
one step after the other, and between two steps other tasks may take theirs. A task that waits for a
lock or a permit takes no step until it has it.

A request to read attributes first makes sure that a holder is connected, and then reads one
attribute after the other. If the holder turns out to be closed, by a request to drop the connection
or because another request has met a failing channel, it goes on once with a fresh holder; a holder
that has been closed is no longer in the cache. An item that cannot be had is answered by a
sentinel; when the channel fails, the holder is closed and the whole request is answered by an
error.

Main definitions: `Operation`, `Result`, `Activity`, `Task`, `Task.step`, `Task.abandon`.
-/

namespace AttributeGateway

/-- What a gateway can be asked to do. -/
inductive Operation (σ : Type) where
  /-- To answer a request line. -/
  | answer (line : String)
  /-- To answer a request line as soon as there is a permit for it. -/
  | submit (line : String)
  /-- To access a holder. -/
  | access (h : HolderId) (aim : Aim)
  /-- To take the holder of a URL out of the cache and close it. -/
  | evict (url : String)
  /-- To take a holder out of the cache if it is there, and close it. -/
  | invalidate (h : HolderId)
  /-- To empty the cache and close its holders. -/
  | drain
  /-- To open a session that belongs to no holder. -/
  | openSession (url : String)
  /-- To read an attribute of a bean through such a session. -/
  | readSession (session : σ) (bean attributeName : String)
  /-- To close such a session. -/
  | endSession (session : σ)

/-- What an operation comes to. -/
inductive Result (σ : Type) where
  /-- A request line has been answered. -/
  | answered (r : Response)
  /-- A holder has been accessed. -/
  | accessed (o : Outcome)
  /-- The holders concerned have been closed. `empty` says whether the cache was empty then. -/
  | cleared (empty : Bool)
  /-- A session has been opened. -/
  | opened (session : σ)
  /-- An attribute has been read. -/
  | read (v : Value)
  /-- A session has been closed. -/
  | ended
  /-- The remote side has reported an error. -/
  | remoteError (error : RemoteError)

/-- A request to read attributes, behind some of its queries. -/
structure Reading where
  get : Get
  /-- The lines for the queries that have been answered. -/
  lines : List String
  /-- The queries that have not been answered. -/
  rest : List Query

/-- What a request accesses a holder for. -/
inductive Purpose where
  /-- To have a holder connected, again after the first one was closed. `inside` says whether the
  first of the remaining queries has already met a closed holder. -/
  | connecting (reading : Reading) (inside again : Bool)
  /-- To answer the first of the remaining queries, again after a holder was closed. -/
  | fetching (reading : Reading) (again : Bool)
  /-- To close the holder whose channel has failed. -/
  | givingUp (f : Fault)
  /-- To drop the connection. -/
  | dropping

/-- Where a task stands. -/
inductive Activity (τ σ : Type) where
  /-- Nothing has been done. -/
  | beginning (op : Operation σ)
  /-- A permit has been asked for. -/
  | queueing (line : String)
  /-- A request is accessing a holder. -/
  | requesting (p : Purpose) (a : Access τ σ)
  /-- A request has accessed a holder, and has not gone on yet. -/
  | returning (p : Purpose) (h : HolderId) (o : Outcome)
  /-- A holder is being accessed for its own sake. -/
  | accessing (a : Access τ σ)
  /-- The holders of URLs are to be taken out of the cache and closed. -/
  | sweeping (urls : List String)
  /-- A holder is being closed; the URLs are those whose holders are next. -/
  | clearing (a : Access τ σ) (urls : List String)
  /-- A session that belongs to no holder is being opened. -/
  | opening (found : τ)
  /-- An attribute is being read through a session that belongs to no holder. -/
  | reading (session : σ) (bean attributeName : String)
  /-- A session that belongs to no holder is being closed. -/
  | ending (session : σ)
  /-- The operation has ended. -/
  | finished (r : Result σ)

/-- An operation under way. -/
structure Task (τ σ : Type) where
  activity : Activity τ σ
  /-- Whether the task has a permit. -/
  employed : Bool := false

/-- The line for a value: the sentinel for no value, and nothing if the template does not take the
value. -/
def Template.line (t : Template) (v : Value) : Option String :=
  if v.isNull then some notAvailable else t.fill v.render

namespace Activity

variable {ρ τ σ : Type} [Remote ρ τ σ]

/-! ### Requests -/

/-- Answers a request whose duration is taken. -/
def answer (r : Response) (g : Gateway ρ σ) : Gateway ρ σ × Activity τ σ :=
  (g.count fun m => { m with latencies := m.latencies + 1 }, .finished (.answered r))

/-- Has a holder connected before going on with the queries. -/
def connect (r : Reading) (inside again : Bool) (g : Gateway ρ σ) :
    Gateway ρ σ × Activity τ σ :=
  let (h, g) := g.acquire r.get.endpoint
  (g, .requesting (.connecting r inside again) { holder := h, aim := .connect })

/-- Gives a request up because the channel has failed. -/
def giveUp (h : HolderId) (f : Fault) (g : Gateway ρ σ) : Gateway ρ σ × Activity τ σ :=
  let g := g.count fun m => { m with remoteErrors := m.remoteErrors + 1 }
  (g.invalidate h, .requesting (.givingUp f) { holder := h, aim := .close })

/-- Goes on with the remaining queries. -/
def proceed (h : HolderId) (get : Get) (lines : List String) (rest : List Query)
    (g : Gateway ρ σ) : Gateway ρ σ × Activity τ σ :=
  match rest with
  | [] => answer (.ok lines) g
  | q :: queries =>
    match q.path with
    | .ok p =>
      (g, .requesting (.fetching ⟨get, lines, q :: queries⟩ false)
        { holder := h, aim := .fetch q.bean p.attributeName })
    | .error f =>
      if f.itemLevel then proceed h get (lines ++ [notAvailable]) queries g.countUnavailable
      else giveUp h f g

/-- Answers the first of the remaining queries by what could be read of it, and goes on. -/
def settle (h : HolderId) (r : Reading) (found : Except Fault Value) (g : Gateway ρ σ) :
    Gateway ρ σ × Activity τ σ :=
  match found with
  | .ok v =>
    match r.get.template.line v with
    | some line => proceed h r.get (r.lines ++ [line]) r.rest.tail g
    | none => proceed h r.get (r.lines ++ [notAvailable]) r.rest.tail g.countUnavailable
  | .error f =>
    if f.itemLevel then
      proceed h r.get (r.lines ++ [notAvailable]) r.rest.tail g.countUnavailable
    else giveUp h f g

/-- Reads the first of the remaining queries once more, through a fresh holder. -/
def fetchAgain (h : HolderId) (r : Reading) (g : Gateway ρ σ) : Gateway ρ σ × Activity τ σ :=
  match r.rest.head? with
  | some ⟨bean, _, .ok p⟩ =>
    (g, .requesting (.fetching r true) { holder := h, aim := .fetch bean p.attributeName })
  | _ => proceed h r.get r.lines r.rest g

/-- What the first of the remaining queries asks for, in the value of the attribute. -/
def select (r : Reading) (v : Value) : Except Fault Value :=
  match r.rest.head? with
  | some ⟨_, _, .ok p⟩ => v.resolve p.rest
  | _ => .ok v

/-- Goes on with a request after an access to a holder. -/
def resume (p : Purpose) (h : HolderId) (o : Outcome) (g : Gateway ρ σ) :
    Gateway ρ σ × Activity τ σ :=
  match p, o with
  | .connecting r inside again, .failed f =>
    if f.isHolderClosed && !again then connect r inside true g else answer (.ofFault f) g
  | .connecting r inside _, _ =>
    if inside then fetchAgain h r g else proceed h r.get r.lines r.rest g
  | .fetching r again, .failed f =>
    if f.isHolderClosed && !again then connect r true false g else settle h r (.error f) g
  | .fetching r _, .fetched v => settle h r (select r v) g
  | .fetching r _, _ => settle h r (.ok .null) g
  | .givingUp f, _ => answer (.err .channelError f.detail) g
  | .dropping, _ => answer (.ok []) g

/-- Begins to answer a request line. -/
def beginLine (line : String) (g : Gateway ρ σ) : Gateway ρ σ × Activity τ σ :=
  let g := { g with commands := g.commands + 1 }
  match Command.parse line with
  | .error f =>
    (g.count fun m => { m with invalidCommands := m.invalidCommands + 1 },
      .finished (.answered (.ofFault f)))
  | .ok (.get get) =>
    connect ⟨get, [], get.queries⟩ false false
      (g.count fun m => { m with getCommands := m.getCommands + 1 })
  | .ok (.close url) =>
    let g := g.count fun m => { m with closeCommands := m.closeCommands + 1 }
    match g.evict url with
    | (some h, g) => (g, .requesting .dropping { holder := h, aim := .close })
    | (none, g) => answer (.ok []) g

/-! ### Other operations -/

/-- Takes the holder of the first URL out of the cache, to close it before the next URL. -/
def sweep (g : Gateway ρ σ) : List String → Gateway ρ σ × Activity τ σ
  | [] => (g, .finished (.cleared g.cache.isEmpty))
  | url :: urls =>
    match g.evict url with
    | (some h, g) => (g, .clearing { holder := h, aim := .close } urls)
    | (none, g) => (g, .sweeping urls)

/-- Begins an operation. -/
def begin (id : TaskId) (op : Operation σ) (g : Gateway ρ σ) : Gateway ρ σ × Activity τ σ :=
  match op with
  | .answer line => beginLine line g
  | .submit line => ({ g with workers := g.workers.request id }, .queueing line)
  | .access h aim => (g, .accessing { holder := h, aim })
  | .evict url => sweep g [url]
  | .invalidate h => (g.invalidate h, .clearing { holder := h, aim := .close } [])
  | .drain => (g, .sweeping g.cache.keys)
  | .openSession url =>
    let (found, remote) := Remote.reach url g.remote
    ({ g with remote }, match found with
      | .ok found => .opening found
      | .error error => .finished (.remoteError error))
  | .readSession s bean attributeName => (g, .reading s bean attributeName)
  | .endSession s => (g, .ending s)

/-- The next step after a step of an access, given how to go on behind it. -/
def through (next : Gateway ρ σ × Access.Next τ σ) (goOn : Access τ σ → Activity τ σ)
    (finish : Outcome → Gateway ρ σ → Gateway ρ σ × Activity τ σ) :
    Gateway ρ σ × Activity τ σ :=
  match next with
  | (g, .inl a) => (g, goOn a)
  | (g, .inr o) => finish o g

/-- The answer to a request line for which there is no permit any more. -/
def dismissed : Response := .ofFault (.internal "worker pool has been shut down")

/-- The next step of an activity other than waiting for a permit, unless it waits for a lock or has
ended. -/
def step (id : TaskId) (activity : Activity τ σ) (g : Gateway ρ σ) :
    Option (Gateway ρ σ × Activity τ σ) :=
  match activity with
  | .beginning op => some (begin id op g)
  | .queueing _ => none
  | .requesting p a =>
    (a.step id g).map fun next =>
      through next (.requesting p) fun o g => (g, .returning p a.holder o)
  | .returning p h o => some (resume p h o g)
  | .accessing a =>
    (a.step id g).map fun next =>
      through next .accessing fun o g => (g, .finished (.accessed o))
  | .sweeping urls => some (sweep g urls)
  | .clearing a urls =>
    (a.step id g).map fun next => through next (.clearing · urls) fun _ g => (g, .sweeping urls)
  | .opening found =>
    let (session, remote) := Remote.establish found g.remote
    some ({ g with remote }, .finished (match session with
      | .ok s => .opened s
      | .error error => .remoteError error))
  | .reading s bean attributeName =>
    let (v, remote) := Remote.read s bean attributeName g.remote
    some ({ g with remote }, .finished (match v with
      | .ok v => .read v
      | .error error => .remoteError error))
  | .ending s =>
    let (result, remote) := Remote.close s g.remote
    some ({ g with remote }, .finished (match result with
      | .ok () => .ended
      | .error error => .remoteError error))
  | .finished _ => none

/-- Whether the next step ends an operation of the remote side that takes time. -/
def takesTime (activity : Activity τ σ) (remote : ρ) : Bool :=
  match activity with
  | .requesting _ a | .accessing a | .clearing a _ => a.takesTime remote
  | .opening found => Remote.establishTakesTime found remote
  | .reading s bean attributeName => Remote.readTakesTime s bean attributeName remote
  | _ => false

/-- The result, once there is one. -/
def result? : Activity τ σ → Option (Result σ)
  | .finished r => some r
  | _ => none

end Activity

namespace Task

variable {ρ τ σ : Type} [Remote ρ τ σ]

/-- The task of an operation. -/
def ofOperation (op : Operation σ) : Task τ σ := { activity := .beginning op }

/-- Takes up a request line once there is a permit, or dismisses it if there will be none. -/
def takeUp (id : TaskId) (t : Task τ σ) (line : String) (g : Gateway ρ σ) :
    Option (Gateway ρ σ × Task τ σ) :=
  if g.workers.withdrawn then
    some ({ g with workers := g.workers.leave id },
      { t with activity := .finished (.answered Activity.dismissed) })
  else if g.workers.held.contains id then
    some (g, ⟨.beginning (.answer line), true⟩)
  else none

/-- Gives the permit back when the operation has ended. -/
def settle (id : TaskId) (t : Task τ σ) (g : Gateway ρ σ) : Gateway ρ σ × Task τ σ :=
  if t.employed && t.activity.result?.isSome then
    ({ g with workers := g.workers.leave id }, { t with employed := false })
  else (g, t)

/-- The next step of a task, unless it waits for a lock or a permit or has ended. -/
def step (id : TaskId) (t : Task τ σ) (g : Gateway ρ σ) : Option (Gateway ρ σ × Task τ σ) :=
  match t.activity with
  | .queueing line => t.takeUp id line g
  | activity =>
    (activity.step id g).map fun (g, activity) => settle id { t with activity } g

/-- Drops a task where it stands: its lock and its permit are given back. -/
def abandon (id : TaskId) (t : Task τ σ) (g : Gateway ρ σ) : Gateway ρ σ :=
  let g := match t.activity with
    | .requesting _ a | .accessing a | .clearing a _ => a.abandon id g
    | _ => g
  { g with workers := g.workers.leave id }

end Task

end AttributeGateway
