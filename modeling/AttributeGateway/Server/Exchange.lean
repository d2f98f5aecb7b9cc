import AttributeGateway.Agent.Basic
import AttributeGateway.Agent.Script
import AttributeGateway.Server.Host

/-!
# Serving agents

The tasks of a server whose endpoints are agents wait for replies. While a task waits, its request
is under way; when the reply has come, it is handed to the task, which goes on.

Main definitions: `Host.requests`, `Host.hand`.
-/

namespace AttributeGateway

/-- A server for the endpoints of agents. -/
abbrev AgentHost := Host (Agent.Agents Agent.Script) Agent.Found Url

/-- The request whose reply an access waits for. -/
def Access.request? (a : Access Agent.Found Url) : Option Agent.Request :=
  match a.stage, a.aim with
  | .establishing found, _ => some (Agent.handshake found)
  | .reading url, .fetch bean attributeName => some (Agent.readRequest url bean attributeName)
  | _, _ => none

/-- The request whose reply an activity waits for. -/
def Activity.request? : Activity Agent.Found Url → Option Agent.Request
  | .requesting _ a | .accessing a | .clearing a _ => a.request?
  | .opening found => some (Agent.handshake found)
  | .reading url bean attributeName => some (Agent.readRequest url bean attributeName)
  | _ => none

namespace Host

/-- A server before the first client, if there is one for the configuration. -/
def ofConfig? (c : Config) : Option AgentHost :=
  (Server.start? c ⟨{}⟩).map fun server => { server }

/-- The requests that are under way, each with the task that waits for its reply. -/
def requests (h : AgentHost) : List (TaskId × Agent.Request) :=
  h.sleeping.filterMap fun id =>
    ((h.server.system.task? id).bind (·.activity.request?)).map (id, ·)

/-- Hands a reply to the task that waits for it, if it has not been dropped. -/
def hand (h : AgentHost) (id : TaskId) (reply : Agent.Reply) : AgentHost :=
  if h.sleeping.contains id then
    wake { h with server.system.gateway.remote := ⟨{ replies := [reply] }⟩ } id
  else h

end Host

end AttributeGateway
