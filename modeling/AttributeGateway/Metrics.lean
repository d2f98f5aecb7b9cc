/-!
# Metrics

What a gateway counts about itself for those who watch it. The gauges say how much there is now, the
counters how often something has happened.
-/

namespace AttributeGateway

/-- The metrics of a gateway. -/
structure Metrics where
  /-- How many clients are connected: a gauge. -/
  connectedClients : Int := 0
  /-- How many endpoints have a cached holder: a gauge. -/
  cachedEndpoints : Nat := 0
  /-- How many requests to read attributes have been taken up. -/
  getCommands : Nat := 0
  /-- How many requests to drop a connection have been taken up. -/
  closeCommands : Nat := 0
  /-- How many request lines have been refused. -/
  invalidCommands : Nat := 0
  /-- How many clients have been accepted. -/
  connectionsReceived : Nat := 0
  /-- How many attempts to open a session have begun. -/
  connectAttempts : Nat := 0
  /-- How many attempts to open a session have failed. -/
  connectFailures : Nat := 0
  /-- How many attributes could not be had. -/
  attributeFailures : Nat := 0
  /-- How many requests were given up because the channel to an endpoint failed. -/
  remoteErrors : Nat := 0
  /-- How many requests have had their duration taken. -/
  latencies : Nat := 0
  deriving DecidableEq, Repr

end AttributeGateway
