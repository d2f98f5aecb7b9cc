import AttributeGateway.Gateway.Basic

/-!
# Access to a holder

A task connects a holder, reads an attribute through it, or closes it. Reads share the holder's lock
for as long as they take, so that a close waits for them; connecting and closing take the lock
alone. Whoever finds the holder without a session gives up the shared lock, asks to have the lock
alone, and looks again: another task may have connected or closed the holder meanwhile.

An access goes from one `Stage` to the next in steps. Between two steps other tasks may take theirs.

Main definitions: `Access`, `Access.step`, `Access.abandon`.
-/

namespace AttributeGateway

/-- What a holder is accessed for. -/
inductive Aim where
  /-- To have it connected. -/
  | connect
  /-- To read an attribute of a bean. -/
  | fetch (bean attributeName : String)
  /-- To have it closed. -/
  | close
  deriving DecidableEq, Repr

/-- How far an access has come. -/
inductive Stage (τ σ : Type) where
  /-- The lock has not been asked for. -/
  | beginning
  /-- The lock has been asked for, to share it. -/
  | sharing
  /-- There was no session; the lock has been given back, and will be asked for to have it alone. -/
  | upgrading
  /-- The lock has been asked for, to have it alone. -/
  | excluding
  /-- A session is being opened; the lock is held alone. -/
  | establishing (found : τ)
  /-- There was a session; the lock is shared. -/
  | guarding
  /-- The attribute is being read; the lock is shared. -/
  | reading (session : σ)
  /-- The session is being closed; the lock is held alone. -/
  | ending (session : σ)
  deriving DecidableEq

/-- An access under way. -/
structure Access (τ σ : Type) where
  holder : HolderId
  aim : Aim
  stage : Stage τ σ := .beginning
  deriving DecidableEq

/-- What an access comes to. -/
inductive Outcome where
  /-- The holder was connected when the access ended. -/
  | connected
  /-- The attribute has been read. -/
  | fetched (v : Value)
  /-- The holder is closed. -/
  | closed
  /-- The access failed. -/
  | failed (f : Fault)

namespace Access

variable {ρ τ σ : Type} [Remote ρ τ σ]

/-- An access that goes on, or its outcome. -/
abbrev Next (τ σ : Type) := Access τ σ ⊕ Outcome

/-- Goes on at another stage. -/
def goOn (a : Access τ σ) (stage : Stage τ σ) (g : Gateway ρ σ) : Gateway ρ σ × Next τ σ :=
  (g, .inl { a with stage })

/-- Gives the lock back and ends with an outcome. -/
def finish (id : TaskId) (a : Access τ σ) (o : Outcome) (g : Gateway ρ σ) :
    Gateway ρ σ × Next τ σ :=
  (g.modifyLock a.holder (·.leave id), .inr o)

/-- Ends because the holder has been closed. -/
def refuse (id : TaskId) (a : Access τ σ) (g : Gateway ρ σ) : Gateway ρ σ × Next τ σ :=
  a.finish id (.failed (.holderClosed (g.holder a.holder).endpoint)) g

/-- Asks for the lock. -/
def askFor (id : TaskId) (a : Access τ σ) (mode : LockMode) (g : Gateway ρ σ) :
    Gateway ρ σ × Next τ σ :=
  a.goOn (match mode with
    | .shared => .sharing
    | .exclusive => .excluding) (g.modifyLock a.holder (·.request id mode))

/-- The fault of a holder whose session is gone although the lock has been held since it was
found. -/
def lostSession (endpoint : String) : Fault :=
  .internal ("Holder for '" ++ endpoint ++ "' lost its session while guarded")

/-- Uses the session that there was, sharing the lock. -/
def useSession (id : TaskId) (a : Access τ σ) (g : Gateway ρ σ) : Gateway ρ σ × Next τ σ :=
  match a.aim, (g.holder a.holder).link with
  | .fetch _ _, .connected s => a.goOn (.reading s) g
  | .fetch _ _, _ => a.finish id (.failed (lostSession (g.holder a.holder).endpoint)) g
  | _, _ => a.finish id .connected g

/-- Looks at the link, sharing the lock. -/
def lookShared (id : TaskId) (a : Access τ σ) (g : Gateway ρ σ) : Gateway ρ σ × Next τ σ :=
  match (g.holder a.holder).link with
  | .connected _ => a.goOn .guarding g
  | .closed => a.refuse id g
  | .disconnected => a.goOn .upgrading (g.modifyLock a.holder (·.leave id))

/-- Ends an attempt to open a session that has failed. -/
def connectFailed (id : TaskId) (a : Access τ σ) (error : RemoteError) (g : Gateway ρ σ) :
    Gateway ρ σ × Next τ σ :=
  a.finish id (.failed (.connectionFailed error.message))
    (g.count fun m => { m with connectFailures := m.connectFailures + 1 })

/-- Begins an attempt to open a session. -/
def beginConnect (id : TaskId) (a : Access τ σ) (g : Gateway ρ σ) : Gateway ρ σ × Next τ σ :=
  let g := g.count fun m => { m with connectAttempts := m.connectAttempts + 1 }
  let (found, remote) := Remote.reach (g.holder a.holder).endpoint g.remote
  let g := { g with remote }
  match found with
  | .ok found => a.goOn (.establishing found) g
  | .error error => a.connectFailed id error g

/-- Looks at the link, having the lock alone. -/
def lookAlone (id : TaskId) (a : Access τ σ) (g : Gateway ρ σ) : Gateway ρ σ × Next τ σ :=
  match a.aim, (g.holder a.holder).link with
  | .close, .connected s => a.goOn (.ending s) (g.setLink a.holder .closed)
  | .close, _ => a.finish id .closed (g.setLink a.holder .closed)
  | _, .closed => a.refuse id g
  | _, .connected _ => a.goOn .guarding (g.modifyLock a.holder (·.downgrade id))
  | _, .disconnected => a.beginConnect id g

/-- Ends an attempt to open a session. -/
def endConnect (id : TaskId) (a : Access τ σ) (found : τ) (g : Gateway ρ σ) :
    Gateway ρ σ × Next τ σ :=
  let (session, remote) := Remote.establish found g.remote
  let g := { g with remote }
  match session with
  | .ok s =>
    a.goOn .guarding
      ((g.setLink a.holder (.connected s)).modifyLock a.holder (·.downgrade id))
  | .error error => a.connectFailed id error g

/-- Ends a read. -/
def endRead (id : TaskId) (a : Access τ σ) (s : σ) (g : Gateway ρ σ) :
    Gateway ρ σ × Next τ σ :=
  match a.aim with
  | .fetch bean attributeName =>
    let (v, remote) := Remote.read s bean attributeName g.remote
    a.finish id (match v with
      | .ok v => .fetched v
      | .error error => .failed (.ofRemote error)) { g with remote }
  | _ => a.finish id .connected g

/-- Ends a session. -/
def endSession (id : TaskId) (a : Access τ σ) (s : σ) (g : Gateway ρ σ) :
    Gateway ρ σ × Next τ σ :=
  a.finish id .closed { g with remote := (Remote.close s g.remote).2 }

/-- The next step of an access, unless it waits for the lock. -/
def step (id : TaskId) (a : Access τ σ) (g : Gateway ρ σ) : Option (Gateway ρ σ × Next τ σ) :=
  let lock := (g.holder a.holder).lock
  match a.stage with
  | .beginning =>
    some (a.askFor id (match a.aim with
      | .close => .exclusive
      | _ => .shared) g)
  | .sharing => if lock.holds id .shared then some (a.lookShared id g) else none
  | .upgrading => some (a.askFor id .exclusive g)
  | .excluding => if lock.holds id .exclusive then some (a.lookAlone id g) else none
  | .establishing found => some (a.endConnect id found g)
  | .guarding => some (a.useSession id g)
  | .reading s => some (a.endRead id s g)
  | .ending s => some (a.endSession id s g)

/-- Whether the next step of an access ends an operation of the remote side that takes time. -/
def takesTime (a : Access τ σ) (remote : ρ) : Bool :=
  match a.stage, a.aim with
  | .establishing found, _ => Remote.establishTakesTime found remote
  | .reading s, .fetch bean attributeName => Remote.readTakesTime s bean attributeName remote
  | _, _ => false

/-- Drops an access where it stands: the lock is given back, and what the remote side has begun is
not waited for. -/
def abandon (id : TaskId) (a : Access τ σ) (g : Gateway ρ σ) : Gateway ρ σ :=
  g.modifyLock a.holder (·.leave id)

end Access

end AttributeGateway
