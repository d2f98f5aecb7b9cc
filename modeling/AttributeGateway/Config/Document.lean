import AttributeGateway.Config.Basic
import AttributeGateway.Text.Utf8
import AttributeGateway.Toml.Parser

/-!
# Configurations in documents

A configuration is read from a TOML document, whose entries replace the defaults. A setting of the
wrong type or out of range, and an entry of the document that is no setting, make it unreadable;
inside the two tables, entries that are no settings are passed over. The two tables may also be
given as arrays of their settings in order, the last ones of which may be missing, or as a date or
time, which stands for a table without entries.

Main definitions: `Config.ofEntries?`, `Config.ofDocument`, `Config.ofFile`.
-/

namespace AttributeGateway

open Toml (Entries)

/-! ### Settings -/

namespace Setting

/-- A number of `bits` bits. -/
def natural? (bits : Nat) : Toml.Value → Option Nat
  | .integer i => if 0 ≤ i ∧ i < (Nat.pow 2 bits : Nat) then some i.toNat else none
  | _ => none

/-- A port. -/
def port? (v : Toml.Value) : Option UInt16 := (natural? 16 v).map UInt16.ofNat

/-- A size or a duration. -/
def size? (v : Toml.Value) : Option UInt64 := (natural? 64 v).map UInt64.ofNat

/-- A text. -/
def text? : Toml.Value → Option String
  | .string s => some s
  | _ => none

/-- A switch. -/
def switch? : Toml.Value → Option Bool
  | .boolean b => some b
  | _ => none

/-- Reads a setting, or takes the default if it is absent. -/
def orDefault {α : Type} (read : Toml.Value → Option α) (default : α) :
    Option Toml.Value → Option α
  | some v => read v
  | none => some default

/-- Reads a table of two settings, given the table's keys for them, or the array of the two. A date
or time counts as a table that has neither. -/
def pair? {α β γ : Type} (first : String) (readFirst : Toml.Value → Option α) (a : α)
    (second : String) (readSecond : Toml.Value → Option β) (b : β) (make : α → β → γ) :
    Toml.Value → Option γ
  | .table _ keys child => of ((Entries.ofFamily keys child).get? first)
      ((Entries.ofFamily keys child).get? second)
  | .array length item => of (List.ofFn item)[0]? (List.ofFn (n := length) item)[1]?
  | .moment => of none none
  | _ => none
where
  /-- The result of what is given for the two settings. -/
  of (v w : Option Toml.Value) : Option γ := do
    return make (← orDefault readFirst a v) (← orDefault readSecond b w)

end Setting

/-- The timeouts that a value stands for. -/
def RemoteTimeouts.ofValue? : Toml.Value → Option RemoteTimeouts :=
  let d : RemoteTimeouts := {}
  Setting.pair? "connect_timeout_ms" Setting.size? d.connect
    "request_timeout_ms" Setting.size? d.request fun connect request => { connect, request }

/-- The export of metrics that a value stands for. -/
def MetricsExport.ofValue? : Toml.Value → Option MetricsExport :=
  let d : MetricsExport := {}
  Setting.pair? "enabled" Setting.switch? d.enabled "port" Setting.port? d.port
    fun enabled port => { enabled, port }

namespace Config

/-! ### Documents -/

/-- The keys of a document. -/
def keys : List String :=
  ["host", "port", "workers", "max_clients", "max_line_length", "max_pipelined_requests",
    "log_level", "provider", "metrics"]

open Setting in
/-- The configuration that the entries of a document stand for, whether or not it has defects. -/
def ofEntries? (t : Entries) : Option Config :=
  let d : Config := {}
  if t.keys.all keys.contains then do
    let host ← orDefault text? d.host (t.get? "host")
    let port ← orDefault port? d.port (t.get? "port")
    let workers ← orDefault size? d.workers (t.get? "workers")
    let maxClients ← orDefault size? d.maxClients (t.get? "max_clients")
    let maxLineLength ← orDefault size? d.maxLineLength (t.get? "max_line_length")
    let maxPipelined ← orDefault size? d.maxPipelined (t.get? "max_pipelined_requests")
    let logLevel ← orDefault text? d.logLevel (t.get? "log_level")
    let timeouts ← orDefault RemoteTimeouts.ofValue? d.timeouts (t.get? "provider")
    let metrics ← orDefault MetricsExport.ofValue? d.metrics (t.get? "metrics")
    return ⟨host, port, workers, maxClients, maxLineLength, maxPipelined, logLevel, timeouts,
      metrics⟩
  else none

/-- Why a document is not accepted. -/
inductive Complaint where
  /-- It is no TOML, or its entries are not those of a configuration. -/
  | unreadable
  /-- The configuration cannot be served. -/
  | defect (d : Defect)
  deriving DecidableEq, Repr

/-- The wording of a complaint. -/
def Complaint.message : Complaint → String
  | .unreadable => "Failed to parse TOML configuration"
  | .defect d => d.message

/-- The configuration of the entries of a document, if it can be served. -/
def accept (entries : Option Entries) : Except Complaint Config :=
  match entries.bind ofEntries? with
  | none => .error .unreadable
  | some c =>
    match c.validate with
    | .error d => .error (.defect d)
    | .ok () => .ok c

/-- The configuration of a document, if it can be served. -/
def ofDocument (text : String) : Except Complaint Config := accept (Toml.parse? text)

/-! ### Files -/

/-- Why a file has no content. -/
inductive FileProblem where
  | missing
  /-- There is a directory in its place. -/
  | directory
  /-- What should be a directory above it is a file. -/
  | notDirectory
  /-- The way to it is barred by something else, in the words of the system. -/
  | barred (text : String)
  /-- It is there, but something else is wrong, in the words of the system. -/
  | other (text : String)
  deriving DecidableEq, Repr

/-- The wording of a problem. -/
def FileProblem.message : FileProblem → String
  | .missing => "No such file or directory (os error 2)"
  | .directory => "Is a directory (os error 21)"
  | .notDirectory => "Not a directory (os error 20)"
  | .barred text => text
  | .other text => text

/-- Whether nothing is found at the path at all. -/
def FileProblem.isAbsence : FileProblem → Bool
  | .missing | .notDirectory | .barred _ => true
  | .directory | .other _ => false

/-- Why a file is not accepted. -/
inductive FileComplaint where
  | unreadable (path : String) (problem : FileProblem)
  /-- Its bytes are no text. -/
  | notText (path : String)
  | invalid (path : String) (complaint : Complaint)
  deriving DecidableEq, Repr

/-- The wording of a complaint, from the outermost cause inwards. -/
def FileComplaint.message : FileComplaint → String
  | .unreadable path problem =>
    "Failed to read config file at '" ++ path ++ "': " ++ problem.message
  | .notText path =>
    "Failed to read config file at '" ++ path ++ "': stream did not contain valid UTF-8"
  | .invalid path complaint => "Invalid config file '" ++ path ++ "': " ++ complaint.message

/-- What is found where a file should be. -/
abbrev FileContent := Except FileProblem (List UInt8)

/-- The configuration of a file, if it can be served. -/
def ofFile (path : String) (content : FileContent) : Except FileComplaint Config :=
  match content with
  | .error problem => .error (.unreadable path problem)
  | .ok bytes =>
    match Text.ofBytes? bytes with
    | none => .error (.notText path)
    | some text =>
      match ofDocument text with
      | .error complaint => .error (.invalid path complaint)
      | .ok c => .ok c

end Config

end AttributeGateway
