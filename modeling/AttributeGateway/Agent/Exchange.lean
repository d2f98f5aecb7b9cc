import AttributeGateway.Url.Basic

/-!
# Exchanges with agents

An agent answers requests over HTTP. All that is known of the network is that a request goes out and
a reply comes back, or none does. What is said of a request without a reply, and of a body that
cannot be read, comes from the network as well.
-/

namespace AttributeGateway

namespace Agent

/-- What a request asks for. -/
inductive Method where
  | get
  | post
  deriving DecidableEq, Repr

/-- The word for a method. -/
def Method.word : Method → String
  | .get => "GET"
  | .post => "POST"

/-- A request to an agent. -/
structure Request where
  method : Method
  url : Url
  body : String

/-- What comes back. -/
inductive Reply where
  /-- Nothing: the agent was not reached, or ended the connection; and what is said of that. -/
  | lost (problem : String)
  /-- A status and a body; and what is said of the body, should it be no envelope. -/
  | answered (status : Nat) (body : List UInt8) (flaw : String)

/-- A network with states `ν`. -/
class Network (ν : Type) where
  /-- Sends a request and waits for what comes back. -/
  exchange : Request → ν → Reply × ν

end Agent

end AttributeGateway
