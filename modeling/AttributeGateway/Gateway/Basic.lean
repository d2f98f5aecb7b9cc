import AttributeGateway.Gateway.Permits
import AttributeGateway.Metrics
import AttributeGateway.Remote.Basic

/-!
# Gateways

A gateway keeps at most one holder for each endpoint in its cache. A holder owns the session with
its endpoint: it begins without one, is connected at most once, and once it is closed it stays so; a
new connection goes through a new holder. Whoever looks at or changes the link of a holder holds the
holder's lock.

Holders are numbered in the order in which they are made, and a number is never given twice.

Main definitions: `Holder`, `Gateway`, `Gateway.acquire`, `Gateway.evict`, `Gateway.invalidate`.
-/

namespace AttributeGateway

/-- How a holder stands to its endpoint. -/
inductive Link (σ : Type) where
  /-- There has been no session. -/
  | disconnected
  /-- There is a session. -/
  | connected (session : σ)
  /-- There will be no session any more. -/
  | closed
  deriving DecidableEq

/-- The owner of the session with an endpoint. -/
structure Holder (σ : Type) where
  /-- The URL of the endpoint. -/
  endpoint : String
  link : Link σ := .disconnected
  /-- Guards the link. -/
  lock : Lock := {}

/-- The number of a holder. -/
abbrev HolderId := Nat

/-- The state of a gateway with remote states `ρ` and sessions `σ`. -/
structure Gateway (ρ σ : Type) where
  remote : ρ
  /-- All holders that have ever been made, by number. -/
  holders : List (Holder σ) := []
  /-- The number of the holder of each URL. -/
  cache : Table String HolderId := ∅
  /-- Bounds the requests that execute at the same time. -/
  workers : Permits := ⟨0, [], [], false⟩
  /-- How many request lines have been taken up. -/
  commands : Nat := 0
  /-- How many attributes could not be had. -/
  unavailable : Nat := 0
  metrics : Metrics := {}

namespace Gateway

variable {ρ σ : Type}

/-! ### Holders -/

/-- The holder with a number. -/
def holder (g : Gateway ρ σ) (h : HolderId) : Holder σ := g.holders.getD h { endpoint := "" }

/-- Changes the holder with a number. -/
def modifyHolder (g : Gateway ρ σ) (h : HolderId) (f : Holder σ → Holder σ) : Gateway ρ σ :=
  { g with holders := g.holders.modify h f }

/-- Changes the lock of a holder. -/
def modifyLock (g : Gateway ρ σ) (h : HolderId) (f : Lock → Lock) : Gateway ρ σ :=
  g.modifyHolder h fun holder => { holder with lock := f holder.lock }

/-- Changes the link of a holder. -/
def setLink (g : Gateway ρ σ) (h : HolderId) (link : Link σ) : Gateway ρ σ :=
  g.modifyHolder h fun holder => { holder with link }

/-- Makes a holder outside the cache. -/
def addHolder (g : Gateway ρ σ) (url : String) : HolderId × Gateway ρ σ :=
  (g.holders.length, { g with holders := g.holders ++ [{ endpoint := url }] })

/-! ### Counting -/

/-- Counts in the metrics. -/
def count (g : Gateway ρ σ) (f : Metrics → Metrics) : Gateway ρ σ :=
  { g with metrics := f g.metrics }

/-- Sets the gauge of cached endpoints. -/
def gauge (g : Gateway ρ σ) : Gateway ρ σ :=
  g.count fun m => { m with cachedEndpoints := g.cache.size }

/-- Counts an attribute that could not be had. -/
def countUnavailable (g : Gateway ρ σ) : Gateway ρ σ :=
  { g with
    unavailable := g.unavailable + 1
    metrics := { g.metrics with attributeFailures := g.metrics.attributeFailures + 1 } }

/-! ### The cache -/

/-- The cached holder of a URL. -/
def cached? (g : Gateway ρ σ) (url : String) : Option HolderId := g.cache.get? url

/-- The cached holder of a URL, which is made if there is none. -/
def acquire (g : Gateway ρ σ) (url : String) : HolderId × Gateway ρ σ :=
  match g.cached? url with
  | some h => (h, g)
  | none =>
    let (h, g) := g.addHolder url
    (h, gauge { g with cache := g.cache.insert url h })

/-- Takes the holder of a URL out of the cache, and says which one it was. -/
def evict (g : Gateway ρ σ) (url : String) : Option HolderId × Gateway ρ σ :=
  (g.cached? url, gauge { g with cache := g.cache.erase url })

/-- Takes a holder out of the cache if it is the cached one of its URL. -/
def invalidate (g : Gateway ρ σ) (h : HolderId) : Gateway ρ σ :=
  let url := (g.holder h).endpoint
  gauge (if g.cached? url = some h then { g with cache := g.cache.erase url } else g)

end Gateway

end AttributeGateway
