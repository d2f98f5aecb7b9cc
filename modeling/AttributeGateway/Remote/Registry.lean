import AttributeGateway.Remote.Basic

/-!
# Endpoints in memory

A registry serves endpoints of its own. An endpoint counts the attempts to open sessions and the
sessions that are open, and can be told to refuse sessions, to take its time, or to fail when an
attribute is read. An endpoint that is no longer registered goes on serving the sessions that were
opened before; registering its URL again makes a new endpoint.
-/

namespace AttributeGateway

/-- An endpoint in memory. -/
structure Endpoint where
  /-- The attributes of each bean. -/
  beans : Table String (Table String Value) := ∅
  /-- What reading an attribute of a bean fails with. -/
  faults : Table (String × String) RemoteError := ∅
  /-- Whether attempts to open a session take time. -/
  delayed : Bool := false
  /-- Whether attempts to open a session fail. -/
  refusing : Bool := false
  /-- How many attempts to open a session have begun. -/
  attempts : Nat := 0
  /-- How many sessions have been opened, less those that have been closed. -/
  openSessions : Int := 0

/-- A session with an endpoint in memory. -/
structure Session where
  /-- The number of the endpoint. -/
  endpoint : Nat
  /-- The URL under which the endpoint was found. -/
  url : String
  closed : Bool
  deriving DecidableEq

/-- Endpoints in memory and the sessions with them. -/
structure Registry where
  /-- All endpoints that have ever been registered, by number. -/
  endpoints : List Endpoint := []
  /-- The number of the endpoint that is registered under a URL. -/
  directory : Table String Nat := ∅
  /-- All sessions that have ever been opened, by number. -/
  sessions : List Session := []
  /-- The attributes of beans whose reading takes time, at any endpoint. -/
  slow : List (String × String) := []
  /-- The URLs whose sessions report an error when they are closed. -/
  unclean : List String := []

namespace Registry

/-! ### Registering -/

/-- The endpoint that is registered under a URL. -/
def endpoint? (r : Registry) (url : String) : Option Endpoint :=
  (r.directory.get? url).bind fun i => r.endpoints[i]?

/-- Registers an empty endpoint under a URL, unless one is registered. -/
def register (r : Registry) (url : String) : Registry :=
  if r.directory.contains url then r
  else
    { r with
      endpoints := r.endpoints ++ [{}]
      directory := r.directory.insert url r.endpoints.length }

/-- Registers no endpoint under a URL any longer. -/
def unregister (r : Registry) (url : String) : Registry :=
  { r with directory := r.directory.erase url }

/-- Changes the endpoint with a number. -/
def modifyEndpoint (r : Registry) (i : Nat) (f : Endpoint → Endpoint) : Registry :=
  { r with endpoints := r.endpoints.modify i f }

/-- Changes the endpoint that is registered under a URL. -/
def modify (r : Registry) (url : String) (f : Endpoint → Endpoint) : Registry :=
  match r.directory.get? url with
  | some i => r.modifyEndpoint i f
  | none => r

/-- Makes reading an attribute of a bean take time. -/
def slowDown (r : Registry) (bean attributeName : String) : Registry :=
  { r with slow := (bean, attributeName) :: r.slow }

/-- Makes the sessions of a URL report an error when they are closed. -/
def failClosing (r : Registry) (url : String) : Registry :=
  { r with unclean := url :: r.unclean }

end Registry

namespace Endpoint

/-- Sets an attribute of a bean. -/
def setAttribute (e : Endpoint) (bean attributeName : String) (v : Value) : Endpoint :=
  { e with beans := e.beans.insert bean (((e.beans.get? bean).getD ∅).insert attributeName v) }

/-- Makes reading an attribute of a bean fail. -/
def injectFault (e : Endpoint) (bean attributeName : String) (error : RemoteError) : Endpoint :=
  { e with faults := e.faults.insert (bean, attributeName) error }

/-- What reading an attribute of a bean gives. -/
def read (e : Endpoint) (bean attributeName : String) : Except RemoteError Value :=
  match e.faults.get? (bean, attributeName) with
  | some error => .error error
  | none =>
    match e.beans.get? bean with
    | none => .error (.unreadable ("InstanceNotFoundException: " ++ bean))
    | some attributes =>
      match attributes.get? attributeName with
      | none =>
        .error (.unreadable
          ("AttributeNotFoundException: No such attribute: " ++ attributeName))
      | some v => .ok v

end Endpoint

namespace Registry

/-! ### Sessions -/

/-- An endpoint that has been found: its number and the URL. -/
abbrev Found := Nat × String

/-- Looks for the endpoint of a URL and counts the attempt. -/
def reach (url : String) (r : Registry) : Except RemoteError Found × Registry :=
  match r.directory.get? url with
  | none => (.error (.connect ("Connection refused: no endpoint at '" ++ url ++ "'")), r)
  | some i => (.ok (i, url), r.modifyEndpoint i fun e => { e with attempts := e.attempts + 1 })

/-- Opens a session with an endpoint that has been found, unless it refuses. -/
def establish (found : Found) (r : Registry) : Except RemoteError Nat × Registry :=
  let (i, url) := found
  if r.endpoints[i]?.any (·.refusing) then
    (.error (.connect ("Connection refused by '" ++ url ++ "'")), r)
  else
    (.ok r.sessions.length,
      { r.modifyEndpoint i fun e => { e with openSessions := e.openSessions + 1 } with
        sessions := r.sessions ++ [⟨i, url, false⟩] })

/-- Reads an attribute of a bean through a session. -/
def read (r : Registry) (s : Nat) (bean attributeName : String) : Except RemoteError Value :=
  match r.sessions[s]? with
  | some ⟨i, _, false⟩ => ((r.endpoints[i]?).getD {}).read bean attributeName
  | _ => .error (.channel "Session has been closed")

/-- Closes a session. Closing it again changes nothing. -/
def closeSession (r : Registry) (s : Nat) : Registry :=
  match r.sessions[s]? with
  | some ⟨i, _, false⟩ =>
    { r.modifyEndpoint i fun e => { e with openSessions := e.openSessions - 1 } with
      sessions := r.sessions.modify s fun session => { session with closed := true } }
  | _ => r

/-- Whether the URL of a session is one whose sessions report an error when they are closed. -/
def closesUncleanly (r : Registry) (s : Nat) : Bool :=
  r.sessions[s]?.any fun session => r.unclean.contains session.url

instance : Remote Registry Found Nat where
  reach := reach
  establishTakesTime found r := r.endpoints[found.1]?.any (·.delayed)
  establish := establish
  readTakesTime _ bean attributeName r := r.slow.contains (bean, attributeName)
  read s bean attributeName r := (r.read s bean attributeName, r)
  close s r :=
    (if r.closesUncleanly s then .error (.channel "close failed") else .ok (),
      r.closeSession s)

end Registry

end AttributeGateway
