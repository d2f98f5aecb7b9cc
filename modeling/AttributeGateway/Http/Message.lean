import AttributeGateway.Http.Status
import AttributeGateway.Text.Blank
import AttributeGateway.Text.Utf8

/-!
# Messages over HTTP

A message is a first line, lines of headers, an empty line and a body. Each exchange has a
connection of its own, so that the body of a reply ends where the connection does; a reply that
states a greater length has been cut short.

Main definitions: `Http.request`, `Http.readReply?`, `Http.isMethod`,
`Http.isTarget`, `Http.readRequest?`, `Http.reply`.
-/

namespace AttributeGateway

namespace Http

/-- The end of each line. -/
def lineEnd : String := "\r\n"

/-- The bytes of a message. -/
def message (first : String) (headers : List (String × String)) (body : String) : List UInt8 :=
  Text.toBytes (first ++ lineEnd ++
    String.join (headers.map fun (name, value) => name ++ ": " ++ value ++ lineEnd) ++ lineEnd ++
    body)

/-- The headers that describe a body. -/
def bodyHeaders (contentType body : String) : List (String × String) :=
  [("content-type", contentType), ("content-length", Text.decimal body.utf8ByteSize)]

/-- A request; a request without a body says nothing of one. -/
def request (method target host body : String) : List UInt8 :=
  message (method ++ " " ++ target ++ " HTTP/1.0")
    ([("host", host), ("accept", "*/*")] ++
      if body.isEmpty then [] else bodyHeaders "application/json" body) body

/-- A reply. -/
def reply (status : Nat) (contentType : Option String) (body : String) : List UInt8 :=
  message ("HTTP/1.1 " ++ statusText status)
    (("connection", "close") :: match contentType with
      | some t => bodyHeaders t body
      | none => [("content-length", "0")]) body

/-- What stands before and behind the first empty line, once it has arrived. -/
def splitHead? : List UInt8 → Option (List UInt8 × List UInt8)
  | 0x0D :: 0x0A :: 0x0D :: 0x0A :: body => some ([], body)
  | b :: rest => (splitHead? rest).map fun (head, body) => (b :: head, body)
  | [] => none

/-- The words of the first line, and the further lines. -/
def headLines (head : List UInt8) : List String × List String :=
  match (Text.ofBytes head).splitOn lineEnd with
  | first :: headers => (Text.wordsOf first, headers)
  | [] => ([], [])

/-- The length that headers state. -/
def statedLength? (headers : List String) : Option Nat :=
  headers.findSome? fun line =>
    match line.splitOn ":" with
    | name :: value :: _ =>
      if name.toLower = "content-length" then
        (Text.readNat Text.maxWord64 (" ".intercalate (Text.wordsOf value))).toOption
      else none
    | _ => none

/-- The status and the body of a reply whose connection has ended, unless the reply has been cut
short or is no reply. -/
def readReply? (bytes : List UInt8) : Option (Nat × List UInt8) := do
  let (head, body) ← splitHead? bytes
  let (first, headers) := headLines head
  let status ← (Text.readNat Text.maxWord16 (← first[1]?)).toOption
  match statedLength? headers with
  | some length => if body.length < length then none else return (status, body.take length)
  | none => return (status, body)

/-- Whether a text can be a method: letters, digits and some marks. -/
def isMethod (text : String) : Bool :=
  !text.isEmpty && text.toList.all fun c =>
    c.isAlphanum || "!#$%&'*+-.^_\x60|~".toList.contains c

/-- Whether a text can be a target: anything but blanks and controls. -/
def isTarget (text : String) : Bool :=
  !text.isEmpty && text.toList.all fun c => 0x20 < c.toNat && c.toNat != 0x7F

/-- The method and the target of a request, once its headers have arrived. -/
def readRequest? (bytes : List UInt8) : Option (String × String) := do
  let (head, _) ← splitHead? bytes
  match (headLines head).1 with
  | [method, target, _] =>
    if isMethod method && isTarget target then some (method, target) else none
  | _ => none

end Http

end AttributeGateway
