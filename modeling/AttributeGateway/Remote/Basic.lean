import AttributeGateway.Fault
import AttributeGateway.Value.Basic

/-!
# Remote sides

A gateway reads attributes from endpoints that it knows by their URLs. A session with an endpoint is
opened in two parts, because opening may take time: first the endpoint is looked for, then the
session is established with what was found. Everything that a remote side does is a function of its
state; whether it takes time is only a matter of scheduling.
-/

namespace AttributeGateway

/-- The operations of a remote side with states `ρ`, endpoints that have been found `τ` and sessions
`σ`. -/
class Remote (ρ : Type) (τ σ : outParam Type) where
  /-- Begins an attempt to open a session with the endpoint of a URL. -/
  reach : String → ρ → Except RemoteError τ × ρ
  /-- Whether the attempt takes time. -/
  establishTakesTime : τ → ρ → Bool
  /-- Ends the attempt. -/
  establish : τ → ρ → Except RemoteError σ × ρ
  /-- Whether reading an attribute of a bean takes time. -/
  readTakesTime : σ → (bean attributeName : String) → ρ → Bool
  /-- Reads an attribute of a bean. -/
  read : σ → (bean attributeName : String) → ρ → Except RemoteError Value × ρ
  /-- Closes a session; an error is reported after the session has been closed. -/
  close : σ → ρ → Except RemoteError Unit × ρ

end AttributeGateway
