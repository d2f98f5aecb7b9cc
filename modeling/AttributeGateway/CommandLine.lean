import AttributeGateway.Config.Document

/-!
# The command line

A command line is a list of words, the first of which is the name of the program. A flag with a
value takes the word after its first occurrence, whatever that word is. Words that are neither
flags nor values are passed over.

The configuration comes from the file that is named, else from the default file if it is there,
else from the defaults; then the address, the port and the number of workers are replaced by those
of the command line.

Main definitions: `CommandLine.load`, `CommandLine.invocation`.
-/

namespace AttributeGateway

/-- The words of a command line, of which the first one is the name of the program. -/
abbrev CommandLine := List String

namespace CommandLine

/-- Why no configuration results from a command line. -/
inductive Complaint where
  /-- A flag is the last word. -/
  | missingValue (flag : String)
  | file (complaint : Config.FileComplaint)
  | port (text : String) (error : Text.NumeralError)
  | workers (text : String) (error : Text.NumeralError)
  /-- The configuration cannot be served. -/
  | defect (d : Defect)
  deriving DecidableEq, Repr

/-- The wording of a complaint, from the outermost cause inwards. -/
def Complaint.message : Complaint → String
  | .missingValue flag => flag ++ " flag requires a value"
  | .file complaint => complaint.message
  | .port text error => "Invalid port number: " ++ text ++ ": " ++ error.message
  | .workers text error => "Invalid worker count: " ++ text ++ ": " ++ error.message
  | .defect d => d.message

/-- The word after the first occurrence of a flag, if the flag occurs. -/
def flagValue (words : CommandLine) (flag : String) : Except Complaint (Option String) :=
  match words.dropWhile (· ≠ flag) with
  | [] => .ok none
  | [_] => .error (.missingValue flag)
  | _ :: value :: _ => .ok (some value)

/-- The file that is read if none is named and it is there. -/
def defaultPath : String := "beangate.toml"

/-- The configuration of a file. -/
def loadFile (files : String → Config.FileContent) (path : String) : Except Complaint Config :=
  (Config.ofFile path (files path)).mapError .file

/-- The configuration before the flags that replace parts of it. -/
def loadBase (files : String → Config.FileContent) (words : CommandLine) :
    Except Complaint Config := do
  match ← flagValue words "--config" with
  | some path => loadFile files path
  | none =>
    match files defaultPath with
    | .error problem => if problem.isAbsence then return {} else loadFile files defaultPath
    | .ok _ => loadFile files defaultPath

/-- The port that a text stands for. -/
def readPort (text : String) : Except Complaint UInt16 :=
  ((Text.readNat Text.maxWord16 text).map UInt16.ofNat).mapError (.port text)

/-- The number of workers that a text stands for. -/
def readWorkers (text : String) : Except Complaint UInt64 :=
  ((Text.readNat Text.maxWord64 text).map UInt64.ofNat).mapError (.workers text)

/-- Replaces a part of a configuration by what the value of a flag stands for, if the flag
occurs. -/
def replace {α : Type} (flag : String) (read : String → Except Complaint α)
    (put : Config → α → Config) (words : CommandLine) (c : Config) : Except Complaint Config := do
  match ← flagValue words flag with
  | some text => return put c (← read text)
  | none => return c

/-- The configuration of a command line, given the files. -/
def load (files : String → Config.FileContent) (words : CommandLine) :
    Except Complaint Config := do
  let c ← loadBase files words
  let c ← replace "--listen" .ok (fun c host => { c with host }) words c
  let c ← replace "--port" readPort (fun c port => { c with port }) words c
  let c ← replace "--workers" readWorkers (fun c workers => { c with workers }) words c
  c.validate.mapError .defect
  return c

/-! ### What is done -/

/-- The version of the program. -/
def version : String := "beangate version 0.3.1"

/-- How the program is used, line by line. -/
def usageLines : List String :=
  ["Usage: beangate [--config <path>] [--listen <host>] [--port <port>] [--workers <n>]",
    "       beangate --version | --help",
    "",
    "Options:",
    "  --config <path>   TOML configuration file (default: beangate.toml, used if present)",
    "  --listen <host>   Address to listen on (overrides `host`)",
    "  --port <port>     Port to listen on (overrides `port`)",
    "  --workers <n>     Maximum number of requests executing at once (overrides `workers`)",
    "  --version         Print the version and exit",
    "  --help            Print this help and exit",
    "",
    "Protocol (one request per line, words separated by whitespace):",
    "  GET <endpointURL> <formatString> <beanName> <attributePath> [<beanName> <attributePath>]...",
    "      Reads each attribute from the endpoint. Replies `OK` followed by one line per",
    "      attribute, in request order. An attribute that cannot be read yields `N/A`.",
    "      Attribute paths descend into values: `HeapMemoryUsage.used`, `Map[key]`, `List[0]`.",
    "      The format string is applied to each value, e.g. 'used:%d'; `%%` is a literal `%`.",
    "  CLOSE <endpointURL>",
    "      Closes the cached connection to the endpoint. Replies `OK`.",
    "",
    "Errors are reported as three lines: `ERR`, an error code, and a message.",
    "Error codes: NO_CMD, UNKNOWN_CMD, INVALID_ARGUMENT_LENGTH, CONNECTION_FAILED, IO_ERROR."]

/-- How the program is used. -/
def usage : String := String.join (usageLines.map (· ++ "\n"))

/-- What a command line asks for. -/
inductive Invocation where
  /-- To print a text. -/
  | print (text : String)
  /-- To serve clients. -/
  | serve (c : Config)
  /-- Nothing that can be done. -/
  | refused (complaint : Complaint)

/-- What a command line asks for, given the files. The version comes before the usage, and both come
before the configuration. -/
def invocation (files : String → Config.FileContent) (words : CommandLine) : Invocation :=
  if words.contains "--version" then .print (version ++ "\n")
  else if words.contains "--help" || words.contains "-h" then .print usage
  else
    match load files words with
    | .ok c => .serve c
    | .error complaint => .refused complaint

/-- What is written about a command line that is refused. -/
def Complaint.report (c : Complaint) : String := c.message ++ "\nRun with --help for usage.\n"

end CommandLine

end AttributeGateway
