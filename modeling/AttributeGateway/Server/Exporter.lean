import AttributeGateway.Server.Basic

/-!
# The export of metrics

The metrics of a server are read over HTTP, as one page of text. A metric is described by two lines,
its help and its type, and then comes a line for each sample. The gauges are always on the page; a
counter comes onto it when it has counted for the first time.

Main definitions: `Server.metricFamilies`, `Server.metricsPage`, `Server.exportReply`.
-/

namespace AttributeGateway

/-- What a metric measures. -/
inductive MetricKind where
  /-- How much there is now. -/
  | gauge
  /-- How often something has happened. -/
  | counter
  /-- How long something has taken. -/
  | histogram
  deriving DecidableEq, Repr

/-- The word for a kind of metric. -/
def MetricKind.word : MetricKind → String
  | .gauge => "gauge"
  | .counter => "counter"
  | .histogram => "histogram"

/-- A metric and its samples. -/
structure MetricFamily where
  /-- The name, without what all names begin with. -/
  name : String
  kind : MetricKind
  help : String
  /-- What stands behind the name in each sample, and the value. -/
  samples : List (String × Int)

/-- The lines of a metric. -/
def MetricFamily.lines (f : MetricFamily) : List String :=
  let name := "beangate_" ++ f.name
  ("# HELP " ++ name ++ " " ++ f.help) :: ("# TYPE " ++ name ++ " " ++ f.kind.word) ::
    f.samples.map fun (suffix, value) => name ++ suffix ++ " " ++ Text.decimal value

/-- What is answered over HTTP. -/
structure PageReply where
  status : Nat
  contentType : Option String
  body : String
  deriving DecidableEq, Repr

namespace Server

variable {ρ τ σ : Type}

/-- What is said of the commands of a kind, once there have been any. -/
def commandSample (word : String) (n : Nat) : List (String × Int) :=
  if n = 0 then [] else [("\x7bcommand=\"" ++ word ++ "\"\x7d", n)]

/-- A counter, once it has counted. -/
def counterFamily (name help : String) (n : Nat) : MetricFamily :=
  ⟨name, .counter, help, if n = 0 then [] else [("", n)]⟩

/-- The metrics of a server, by name. -/
def metricFamilies (s : Server ρ τ σ) : List MetricFamily :=
  let m := s.system.gateway.metrics
  [counterFamily "attribute_failures_total" "Total number of attributes that could not be resolved."
      m.attributeFailures,
    ⟨"cached_endpoints", .gauge, "Number of endpoints held in the connection cache.",
      [("", s.system.gateway.cache.size)]⟩,
    ⟨"command_latency_seconds", .histogram, "Latency of command processing in seconds.",
      if m.latencies = 0 then []
      else [("_bucket\x7ble=\"+Inf\"\x7d", m.latencies), ("_count", m.latencies)]⟩,
    ⟨"commands_processed_total", .counter, "Total number of commands processed.",
      commandSample "CLOSE" m.closeCommands ++ commandSample "GET" m.getCommands ++
        commandSample "invalid" m.invalidCommands⟩,
    ⟨"connected_clients", .gauge, "Number of currently connected clients.",
      [("", s.clients.size)]⟩,
    counterFamily "connections_received_total" "Total number of client connections received."
      m.connectionsReceived,
    counterFamily "endpoint_connect_attempts_total"
      "Total number of connection attempts to remote endpoints." m.connectAttempts,
    counterFamily "endpoint_connect_failures_total"
      "Total number of failed connection attempts to remote endpoints." m.connectFailures,
    counterFamily "remote_io_errors_total" "Total number of I/O errors on endpoint connections."
      m.remoteErrors]

/-- The page of the metrics that have samples. -/
def metricsPage (s : Server ρ τ σ) : String :=
  String.join ((s.metricFamilies.filter fun f => !f.samples.isEmpty).flatMap fun f =>
    f.lines.map (· ++ "\n"))

/-- The path of a target, which may have a scheme and a host before it and a query behind it. -/
def targetPath (target : String) : String :=
  let text := target.toList
  let scheme := "http://".toList
  let place :=
    if scheme.isPrefixOf text then
      (text.drop scheme.length).dropWhile fun c => c != '/' && c != '?'
    else text
  String.ofList (place.takeWhile (· ≠ '?'))

/-- The answer to a request over HTTP: the page stands at one path, and can only be read. -/
def exportReply (s : Server ρ τ σ) (method target : String) : PageReply :=
  if targetPath target ≠ "/metrics" then ⟨404, none, ""⟩
  else if method = "GET" then ⟨200, some "text/plain; version=0.0.4", s.metricsPage⟩
  else if method = "HEAD" then ⟨200, some "text/plain; version=0.0.4", ""⟩
  else ⟨405, none, ""⟩

end Server

end AttributeGateway
