import AttributeGateway.CommandLine
import AttributeGateway.Http.Message
import AttributeGateway.Server.Exporter
import AttributeGateway.Server.Launch
import Std.Async.DNS
import Std.Async.Signal
import Std.Async.TCP
import Std.Async.Timer
import Std.Sync.Channel

/-!
# The program

The outermost layer: it reads the command line and the configuration, moves bytes between sockets
and the server, and decides nothing itself. All that reaches the program is put into one channel of
inputs; each input changes the server, and then the answers that have been written are sent and the
requests that tasks wait for are made.
-/

open Std.Async

namespace AttributeGateway

namespace Program

/-- A connection over TCP. -/
abbrev Socket := TCP.Socket.Client

/-- Something that reaches the program. -/
inductive Input where
  /-- A client asks to be accepted. -/
  | client (socket : Socket)
  /-- Bytes of a client have arrived. -/
  | bytes (id : ClientId) (bytes : List UInt8)
  /-- A client has ended its input. -/
  | ended (id : ClientId)
  /-- Reading from a client has failed. -/
  | failed (id : ClientId)
  /-- Writing to a client has failed. -/
  | broken (id : ClientId)
  /-- The reply that a task waits for has come. -/
  | reply (id : TaskId) (r : Agent.Reply)
  /-- The metrics are asked for. -/
  | page (method target : String) (socket : Socket)
  /-- The program is told to stop. -/
  | stop

instance : Inhabited Input := ⟨.stop⟩

/-- The inputs that have not been taken. -/
abbrev Inputs := Std.Channel Input

/-- The bytes that have not been sent to a client. -/
abbrev Outgoing := Std.CloseableChannel ByteArray

/-- What the program knows. -/
structure State where
  host : AgentHost
  outgoing : Table ClientId Outgoing := ∅
  /-- The tasks whose requests have been made and whose replies have not come. -/
  asked : List TaskId := []

/-! ### Sockets -/

/-- The bytes of a list. -/
def pack (bytes : List UInt8) : ByteArray := ⟨bytes.toArray⟩

/-- How many bytes are received at a time. -/
def portion : UInt64 := 65536

/-- Puts an input into the channel. -/
def put (inputs : Inputs) (input : Input) : Async Unit := do
  let _ ← inputs.send input

/-- Receives the bytes of a client. -/
def receive (inputs : Inputs) (id : ClientId) (socket : Socket) : Async Unit := do
  try
    repeat
      match ← socket.recv? portion with
      | some bytes => put inputs (.bytes id bytes.toList)
      | none =>
        put inputs (.ended id)
        return
  catch _ => put inputs (.failed id)

/-- Sends bytes to a client until there will be no more. -/
def send (inputs : Inputs) (id : ClientId) (socket : Socket) (outgoing : Outgoing) :
    Async Unit := do
  try
    repeat
      match ← await (← outgoing.recv) with
      | some bytes => socket.send bytes
      | none =>
        socket.shutdown
        return
  catch _ => put inputs (.broken id)

/-- The addresses of a host. -/
def addresses (host : String) (port : UInt16) : Async (List Std.Net.SocketAddress) := do
  let name := String.ofList (host.toList.filter fun c => c ≠ '[' && c ≠ ']')
  let found ← DNS.getAddrInfo name (Text.decimal port.toNat)
  return found.toList.map fun
    | .v4 addr => .v4 ⟨addr, port⟩
    | .v6 addr => .v6 ⟨addr, port⟩

/-- Binds a listener to the first of some addresses that can be had. -/
def listen : List Std.Net.SocketAddress → IO TCP.Socket.Server
  | [] => throw (IO.userError "no address")
  | address :: rest => do
    try
      let listener ← TCP.Socket.Server.mk
      listener.bind address
      listener.listen 1024
      return listener
    catch e => if rest.isEmpty then throw e else listen rest

/-- Receives bytes until a message can be read, or no more come. -/
def receiveUntil {α : Type} (socket : Socket) (read : List UInt8 → Option α) :
    Async (List UInt8 × Option α) := do
  let mut bytes : List UInt8 := []
  repeat
    match ← socket.recv? portion with
    | some more =>
      bytes := bytes ++ more.toList
      if let some message := read bytes then return (bytes, some message)
    | none => return (bytes, none)
  return (bytes, none)

/-! ### Exchanges -/

/-- What is said of a request on which no reply has come. -/
def lost (r : Agent.Request) (problem : String) : Agent.Reply :=
  .lost ("error sending request for url (" ++ ({ r.url with user := "" } : Url).text ++ "): " ++
    problem)

/-- Makes a request to an agent, over a connection of its own. -/
def exchange (r : Agent.Request) : Async Agent.Reply := do
  let port := UInt16.ofNat (r.url.port.getD 80)
  let socket ← TCP.Socket.Client.mk
  socket.connect ((← addresses r.url.host port).headD (.v4 ⟨.ofParts 0 0 0 0, port⟩))
  socket.send (pack (Http.request r.method.word r.url.target r.url.address r.body))
  let (bytes, _) ← receiveUntil socket fun _ => (none : Option Unit)
  return match Http.readReply? bytes with
    | some (status, body) => .answered status body "error decoding response body"
    | none => lost r "connection closed before message completed"

instance : Inhabited Agent.Reply := ⟨.lost ""⟩

/-- Makes the request that a task waits for; no reply comes after its time. -/
def ask (inputs : Inputs) (timeouts : RemoteTimeouts) (id : TaskId) (r : Agent.Request) :
    Async Unit := do
  let late : Async Agent.Reply := do
    sleep (.ofNat timeouts.request.toNat)
    return lost r "operation timed out"
  let reply ← try Async.race (exchange r) late catch e => pure (lost r (toString e))
  put inputs (.reply id reply)

/-- Answers clients that ask for the metrics. -/
def exportMetrics (inputs : Inputs) (listener : TCP.Socket.Server) : Async Unit := do
  try
    repeat
      let socket ← listener.accept
      background do
        if let (_, some (method, target)) ← receiveUntil socket Http.readRequest? then
          put inputs (.page method target socket)
  catch _ => put inputs .stop

/-! ### Inputs and what follows them -/

/-- Starts something that goes on beside everything else. -/
def start (x : Async Unit) : IO Unit := do
  let _ ← x.toIO

/-- Accepts a client, or turns it away. -/
def accept (inputs : Inputs) (s : State) (socket : Socket) : IO State := do
  match s.host.server.connect with
  | (some id, server) =>
    let outgoing ← Std.CloseableChannel.new
    start (receive inputs id socket)
    start (send inputs id socket outgoing)
    return { s with
      host := s.host.modify fun _ => server
      outgoing := s.outgoing.insert id outgoing }
  | (none, _) =>
    start socket.shutdown
    return s

/-- Takes an input. -/
def take (inputs : Inputs) (s : State) (input : Input) : IO State := do
  match input with
  | .client socket => accept inputs s socket
  | .bytes id bytes =>
    return { s with host := s.host.modify (·.modifyClient id (·.receive bytes)) }
  | .ended id => return { s with host := s.host.modify (·.modifyClient id .endInput) }
  | .failed id => return { s with host := s.host.modify (·.modifyClient id .stopReading) }
  | .broken id => return { s with host := s.host.cut id }
  | .reply id r => return { s with host := s.host.hand id r, asked := s.asked.erase id }
  | .page method target socket =>
    let r := s.host.server.exportReply method target
    start do
      socket.send (pack (Http.reply r.status r.contentType r.body))
      socket.shutdown
    return s
  | .stop => return { s with host := s.host.stop }

/-- Sends the answers that have been written, lets go of the clients that have left, and makes the
requests that have not been made. -/
def follow (inputs : Inputs) (s : State) : IO State := do
  for (id, r) in s.host.server.output do
    if let some outgoing := s.outgoing.get? id then
      let _ ← outgoing.send (pack r.encode)
  let gone := s.outgoing.entries.filter fun e => !s.host.server.clients.contains e.1
  for (_, outgoing) in gone do
    let _ ← (outgoing.close : EIO Std.CloseableChannel.Error Unit).toBaseIO
  let requests := s.host.requests
  for (id, r) in requests do
    if !s.asked.contains id then
      start (ask inputs s.host.server.config.timeouts id r)
  return {
    host := { s.host with server.output := [] }
    outgoing := gone.foldl (fun t e => t.erase e.1) s.outgoing
    asked := requests.map Prod.fst }

/-- Takes inputs until the server has stopped. -/
partial def run (inputs : Inputs) (s : State) : IO Unit := do
  if s.host.server.phase ≠ .stopped then
    let input ← IO.wait (← inputs.recv)
    run inputs (← follow inputs (← take inputs s input))

/-- The number that the system has for an error; sockets give its negative. -/
def errorNumber? : IO.Error → Option UInt32
  | .permissionDenied _ code _ | .resourceBusy code _ | .unsupportedOperation code _ => some (-code)
  | _ => none

/-- What keeps an address from being bound. -/
def problemText (e : IO.Error) : String :=
  match errorNumber? e with
  | some 13 => "Permission denied (os error 13)"
  | some 98 => "Address already in use (os error 98)"
  | some 99 => "Cannot assign requested address (os error 99)"
  | _ => toString e

/-- Binds a port of an address. -/
def bind (host : String) (port : UInt16) : IO (Except String TCP.Socket.Server) := do
  try return .ok (← listen (← (addresses host port).block))
  catch e => return .error (problemText e)

/-- Serves clients until a signal comes. -/
def serve (host : AgentHost) (listener : TCP.Socket.Server)
    (exporter : Option TCP.Socket.Server) : IO Unit := do
  let inputs : Inputs ← Std.Channel.new
  for signal in [Signal.sigint, Signal.sigterm] do
    let waiter ← Signal.Waiter.mk signal false
    start do
      let _ ← await (← waiter.wait)
      put inputs .stop
  if let some exporter := exporter then start (exportMetrics inputs exporter)
  start do
    repeat
      try put inputs (.client (← listener.accept))
      catch _ => pure ()
  run inputs { host }

/-! ### Files -/

/-- Why a file could not be read, given whether anything is found at its path. -/
def problemOf (found : Bool) (e : IO.Error) : Config.FileProblem :=
  match e with
  | .noFileOrDirectory _ _ _ => .missing
  | .inappropriateType _ 21 _ => .directory
  | .inappropriateType _ 20 _ => .notDirectory
  | e => if found then .other (toString e) else .barred (toString e)

/-- What stands at a path. -/
def fileAt (path : String) : IO Config.FileContent := do
  try return .ok (← IO.FS.readBinFile path).toList
  catch e => return .error (problemOf (← (← IO.FS.realPath path).pathExists) e)

/-- The files that a command line can ask for. -/
def filesOf (words : CommandLine) : IO (String → Config.FileContent) := do
  let atDefault ← fileAt CommandLine.defaultPath
  match CommandLine.flagValue words "--config" with
  | .ok (some path) =>
    let atPath ← fileAt path
    return fun p => if p = path then atPath else atDefault
  | _ => return fun _ => atDefault

end Program

end AttributeGateway

open AttributeGateway in
/-- Does what the command line asks for. -/
def main (args : List String) : IO UInt32 := do
  let words : CommandLine := "gateway" :: args
  match CommandLine.invocation (← Program.filesOf words) words with
  | .print text =>
    IO.print text
    return 0
  | .refused complaint =>
    IO.eprint complaint.report
    return 1
  | .serve c =>
    let launched ← c.launch Program.bind
    if let .serving host listener exporter := launched then
      Program.serve host listener exporter
    IO.eprint launched.report
    return launched.exitCode
