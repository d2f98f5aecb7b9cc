import AttributeGateway.Agent.Envelope
import AttributeGateway.Agent.Exchange
import AttributeGateway.Http.Status
import AttributeGateway.Json.Printer
import AttributeGateway.Remote.Basic
import AttributeGateway.Url.Parser
import AttributeGateway.Value.Json

/-!
# Agents

An agent serves the beans of a process over HTTP, under a URL of its own. Opening a session asks the
agent for its version; each attribute is asked for by a request of its own, so that a session is no
more than the URL, and closing it does nothing.

A failure of the network, a status that reports no success and a body that is no envelope concern
the whole session; an envelope that reports no success concerns only what was asked for.
-/

namespace AttributeGateway

namespace Agent

/-- The agents that are reached over a network with states `ν`. -/
structure Agents (ν : Type) where
  network : ν

/-- An agent that has been looked for. -/
structure Found where
  /-- The URL as it was written. -/
  endpoint : String
  url : Url

/-- The request that opens a session. -/
def handshake (found : Found) : Request := ⟨.get, found.url.child "version", ""⟩

/-- The agent that is known by a URL. -/
def find (endpoint : String) : Except RemoteError Found :=
  match Url.parse endpoint with
  | .error flaw =>
    .error (.connect ("Invalid endpoint URL '" ++ endpoint ++ "': " ++ flaw.message))
  | .ok url =>
    if !url.addressesAgent then
      .error (.connect
        ("Unsupported endpoint scheme '" ++ url.scheme ++ "' in '" ++ endpoint ++ "'"))
    else
      let found : Found := ⟨endpoint, url⟩
      let asked : Url := { (handshake found).url with user := "" }
      if asked.canBeRequested then .ok found
      else
        .error (.connect
          ("builder error for url (" ++ asked.text ++ "): Parsed Url is not a valid Uri"))

/-- The request for an attribute of a bean. -/
def readRequest (url : Url) (bean attributeName : String) : Request :=
  ⟨.post, url, (Json.ofEntries [("type", .string "read"), ("mbean", .string bean),
    ("attribute", .string attributeName)]).print⟩

/-- The session that the reply to a handshake opens. -/
def opened (found : Found) (reply : Reply) : Except RemoteError Url :=
  match reply with
  | .lost problem => .error (.connect problem)
  | .answered status body flaw =>
    if Http.succeeded status then
      match Envelope.ofBody? body with
      | none => .error (.connect flaw)
      | some e =>
        if e.status = Envelope.success then .ok found.url else .error (.connect e.complaint)
    else
      .error (.connect ("Handshake with '" ++ found.endpoint ++ "' failed with HTTP status " ++
        Http.statusText status))

/-- The value that the reply to a request for an attribute gives. -/
def readValue (url : Url) (reply : Reply) : Except RemoteError Value :=
  match reply with
  | .lost problem => .error (.channel problem)
  | .answered status body flaw =>
    if Http.succeeded status then
      match Envelope.ofBody? body with
      | none => .error (.channel flaw)
      | some e =>
        if e.status = Envelope.success then .ok (.ofJson e.value)
        else .error (.unreadable e.complaint)
    else
      .error (.channel ("Agent '" ++ url.text ++ "' answered with HTTP status " ++
        Http.statusText status))

/-- Sends a request over the network. -/
def Agents.send {ν : Type} [Network ν] (agents : Agents ν) (request : Request) :
    Reply × Agents ν :=
  let (reply, network) := Network.exchange request agents.network
  (reply, ⟨network⟩)

instance {ν : Type} [Network ν] : Remote (Agents ν) Found Url where
  reach endpoint agents := (find endpoint, agents)
  establishTakesTime _ _ := true
  establish found agents :=
    let (reply, agents) := agents.send (handshake found)
    (opened found reply, agents)
  readTakesTime _ _ _ _ := true
  read url bean attributeName agents :=
    let (reply, agents) := agents.send (readRequest url bean attributeName)
    (readValue url reply, agents)
  close _ agents := (.ok (), agents)

end Agent

end AttributeGateway
