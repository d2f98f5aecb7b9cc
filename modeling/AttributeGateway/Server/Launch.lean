import AttributeGateway.Server.Exchange

/-!
# Launching a server

A server is launched in three steps: its address is bound, its permits are counted, and the port of
the metrics is bound if they are exported. A step that fails ends the launch; without its port for
the metrics, a server that has begun to serve stops again of its own accord.

Main definitions: `Launch`, `Config.launch`, `Launch.exitCode`, `Launch.report`.
-/

namespace AttributeGateway

/-- How launching a server ends. -/
inductive Launch (α : Type) where
  /-- The address is not to be had. -/
  | unbound (address problem : String)
  /-- There would be more permits than can be counted. -/
  | uncountable
  /-- The port of the metrics is not to be had. -/
  | stopped
  /-- Clients are served until the server is told to stop; they come by way of the listener, and
  those that ask for the metrics by way of the exporter, if there is one. -/
  | serving (host : AgentHost) (listener : α) (exporter : Option α)

namespace Launch

variable {α : Type}

/-- The code with which the program ends. -/
def exitCode : Launch α → UInt32
  | .unbound _ _ => 1
  | .uncountable => 101
  | .stopped => 0
  | .serving _ _ _ => 0

/-- What is written about the launch. -/
def report : Launch α → String
  | .unbound address problem =>
    "Error: Failed to bind " ++ address ++ "\n\nCaused by:\n    " ++ problem ++ "\n"
  | .uncountable =>
    "a semaphore may not have more than MAX_PERMITS permits (" ++ Text.decimal Permits.capacity ++
      ")\n"
  | .stopped => ""
  | .serving _ _ _ => ""

end Launch

/-- Every address of the machine. -/
def everyAddress : String := "0.0.0.0"

/-- Launches a server, given how a port of an address is bound. -/
def Config.launch {m : Type → Type} [Monad m] {α : Type}
    (bind : String → UInt16 → m (Except String α)) (c : Config) : m (Launch α) := do
  match ← bind c.host c.port with
  | .error problem => return .unbound c.listenAddress problem
  | .ok listener =>
    match Host.ofConfig? c with
    | none => return .uncountable
    | some host =>
      if c.metrics.enabled then
        match ← bind everyAddress c.metrics.port with
        | .error _ => return .stopped
        | .ok exporter => return .serving host listener (some exporter)
      else return .serving host listener none

end AttributeGateway
