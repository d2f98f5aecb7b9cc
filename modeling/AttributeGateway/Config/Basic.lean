import AttributeGateway.Text.Blank
import AttributeGateway.Text.Numeral

/-!
# Configurations

What a gateway is started with: where it listens, how much it takes on at a time, how long it waits
for remote sides, and whether it exports its metrics. A configuration that could not be served has
defects; of several defects the first one in the order of `Defect.all` is reported.

Main definitions: `Config`, `Defect.mars`, `Config.validate`.
-/

namespace AttributeGateway

/-- How long remote sides are waited for, in milliseconds. -/
structure RemoteTimeouts where
  /-- For a session to be opened. -/
  connect : UInt64 := 5000
  /-- For an attribute to be read. -/
  request : UInt64 := 10000
  deriving DecidableEq, Repr

/-- Whether and where metrics are exported. -/
structure MetricsExport where
  enabled : Bool := false
  port : UInt16 := 9713
  deriving DecidableEq, Repr

/-- What a gateway is started with. The defaults hold where nothing is configured. -/
structure Config where
  /-- The address to listen on. -/
  host : String := "127.0.0.1"
  /-- The port to listen on. -/
  port : UInt16 := 2713
  /-- How many requests may execute at the same time. -/
  workers : UInt64 := 50
  /-- How many clients may be connected at the same time. -/
  maxClients : UInt64 := 10000
  /-- How many bytes a request line may have. -/
  maxLineLength : UInt64 := 1024 * 1024
  /-- How many requests of one client may be in flight at the same time. -/
  maxPipelined : UInt64 := 64
  /-- Which messages are logged. -/
  logLevel : String := "info"
  timeouts : RemoteTimeouts := {}
  metrics : MetricsExport := {}
  deriving DecidableEq, Repr

/-- Why a configuration cannot be served. -/
inductive Defect where
  | zeroPort
  | blankHost
  | zeroWorkers
  | zeroMaxClients
  | zeroMaxLineLength
  | zeroMaxPipelined
  | zeroTimeout
  | zeroMetricsPort
  /-- The metrics are to be exported on the port on which clients are served. -/
  | sharedPort
  deriving DecidableEq, Repr

namespace Defect

/-- All defects, in the order in which they are reported. -/
def all : List Defect :=
  [zeroPort, blankHost, zeroWorkers, zeroMaxClients, zeroMaxLineLength, zeroMaxPipelined,
    zeroTimeout, zeroMetricsPort, sharedPort]

theorem mem_all (d : Defect) : d ∈ all := by cases d <;> decide

/-- Whether a configuration has a defect. -/
def mars : Defect → Config → Bool
  | zeroPort, c => c.port == 0
  | blankHost, c => Text.allBlank c.host
  | zeroWorkers, c => c.workers == 0
  | zeroMaxClients, c => c.maxClients == 0
  | zeroMaxLineLength, c => c.maxLineLength == 0
  | zeroMaxPipelined, c => c.maxPipelined == 0
  | zeroTimeout, c => c.timeouts.connect == 0 || c.timeouts.request == 0
  | zeroMetricsPort, c => c.metrics.enabled && c.metrics.port == 0
  | sharedPort, c => c.metrics.enabled && c.metrics.port == c.port

/-- The wording of a defect. -/
def message : Defect → String
  | zeroPort => "port cannot be 0"
  | blankHost => "host cannot be empty"
  | zeroWorkers => "workers cannot be 0"
  | zeroMaxClients => "max_clients cannot be 0"
  | zeroMaxLineLength => "max_line_length cannot be 0"
  | zeroMaxPipelined => "max_pipelined_requests cannot be 0"
  | zeroTimeout => "provider timeouts must be greater than 0"
  | zeroMetricsPort => "metrics.port cannot be 0"
  | sharedPort => "metrics.port cannot be the same as the main server port"

end Defect

namespace Config

/-- Refuses a configuration that has a defect. -/
def validate (c : Config) : Except Defect Unit :=
  match Defect.all.find? (·.mars c) with
  | some d => .error d
  | none => .ok ()

/-- A configuration passes if it has none of the defects. -/
theorem validate_eq_ok_iff {c : Config} :
    c.validate = .ok () ↔ ∀ d : Defect, d.mars c = false := by
  unfold validate
  split
  · next d h =>
    exact iff_of_false nofun fun h' => by simpa [h' d] using List.find?_some h
  · next h =>
    refine iff_of_true rfl fun d => ?_
    simpa using List.find?_eq_none.1 h d (Defect.mem_all d)

/-- Where a gateway listens: the address and the port. -/
def listenAddress (c : Config) : String := c.host ++ ":" ++ Text.decimal c.port.toNat

end Config

end AttributeGateway
