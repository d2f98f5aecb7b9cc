import AttributeGateway.Text.Numeral

/-!
# Faults

Everything that can go wrong is one of the causes below. Three things are derived from a cause:
the message that describes it, the code under which a client is told of it, and whether it
concerns a single requested item only. A fault of one item never spoils an answer: the item is
answered by a sentinel.
-/

namespace AttributeGateway

/-- The codes under which faults are reported to clients. -/
inductive ErrorCode where
  | noCommand
  | unknownCommand
  | invalidArgumentLength
  | connectionFailed
  | channelError
  deriving DecidableEq, Repr

/-- The word for a code on the wire. -/
def ErrorCode.word : ErrorCode → String
  | .noCommand => "NO_CMD"
  | .unknownCommand => "UNKNOWN_CMD"
  | .invalidArgumentLength => "INVALID_ARGUMENT_LENGTH"
  | .connectionFailed => "CONNECTION_FAILED"
  | .channelError => "IO_ERROR"

/-- What a remote side reports when an operation on it fails. -/
inductive RemoteError where
  /-- The endpoint could not be reached, or refused the session. -/
  | connect (reason : String)
  /-- The bean or the attribute is unknown or cannot be read; the session stays usable. -/
  | unreadable (reason : String)
  /-- The channel failed; the session must be given up. -/
  | channel (reason : String)
  deriving DecidableEq, Repr

/-- The description of a remote error. -/
def RemoteError.message : RemoteError → String
  | .connect reason => reason
  | .unreadable reason => reason
  | .channel reason => reason

/-- A cause of failure. -/
inductive Fault where
  /-- The channel to the client failed. -/
  | clientChannel (reason : String)
  /-- A request line is longer than the limit. -/
  | lineTooLong (limit : Nat)
  /-- A request line has no word. -/
  | noCommand
  /-- A request line begins with a word that is no command. -/
  | unknownCommand (word : String)
  /-- A command has the wrong number of arguments. -/
  | wrongArgumentCount (explanation : String)
  /-- No session with the endpoint could be opened. -/
  | connectionFailed (reason : String)
  /-- The channel to the endpoint failed. -/
  | remoteChannel (reason : String)
  /-- The holder of the session has been closed. -/
  | holderClosed (endpoint : String)
  /-- The attribute cannot be read. -/
  | unreadable (reason : String)
  /-- A text is no attribute path. -/
  | invalidPath (path : String)
  /-- A selector of a sequence is no index. -/
  | invalidIndex (text : String)
  /-- An index is not below the length of the sequence. -/
  | indexOutOfRange (index length : Nat)
  /-- A segment does not apply to a value of this kind. -/
  | invalidSelector (segment kind : String)
  /-- The value has no such member. -/
  | noSuchMember (member typeName : String)
  /-- The gateway itself failed. -/
  | internal (reason : String)
  deriving DecidableEq, Repr

namespace Fault

/-- The description of a fault. -/
def message : Fault → String
  | .clientChannel reason => "IO Error: " ++ reason
  | .lineTooLong limit =>
    "Request line exceeds the maximum length of " ++ Text.decimal limit ++ " bytes"
  | .noCommand => "No command was given"
  | .unknownCommand word => "Unknown command '" ++ word ++ "'"
  | .wrongArgumentCount explanation => explanation
  | .connectionFailed reason => reason
  | .remoteChannel reason => reason
  | .holderClosed endpoint => "Connection holder for '" ++ endpoint ++ "' has been closed"
  | .unreadable reason => reason
  | .invalidPath path => "Invalid attribute path '" ++ path ++ "'"
  | .invalidIndex text => "Incorrect array index '" ++ text ++ "'"
  | .indexOutOfRange index length =>
    "Index " ++ Text.decimal index ++ " is out of range for a sequence of length " ++
      Text.decimal length
  | .invalidSelector segment kind =>
    "Path segment '" ++ segment ++ "' cannot be applied to a " ++ kind ++ " value"
  | .noSuchMember member typeName => "No accessor or member '" ++ member ++ "' on " ++ typeName
  | .internal reason => "Internal Server Error: " ++ reason

/-- The code under which a client is told of a fault. -/
def code : Fault → ErrorCode
  | .noCommand => .noCommand
  | .unknownCommand _ => .unknownCommand
  | .wrongArgumentCount _ => .invalidArgumentLength
  | .connectionFailed _ | .holderClosed _ => .connectionFailed
  | _ => .channelError

/-- The detail that a client is told: of an unknown command only the word. -/
def detail : Fault → String
  | .unknownCommand word => word
  | f => f.message

/-- Whether a fault concerns a single requested item only. -/
def itemLevel : Fault → Bool
  | .unreadable _ | .invalidPath _ | .invalidIndex _ | .indexOutOfRange _ _ |
    .invalidSelector _ _ | .noSuchMember _ _ => true
  | _ => false

/-- Whether a fault says that a holder has been closed. -/
def isHolderClosed : Fault → Bool
  | .holderClosed _ => true
  | _ => false

/-- The fault that a remote error means to the gateway. -/
def ofRemote : RemoteError → Fault
  | .connect reason => .connectionFailed reason
  | .unreadable reason => .unreadable reason
  | .channel reason => .remoteChannel reason

/-- The fault of a JSON text that could not be read, given the reader's complaint. -/
def ofJsonComplaint (complaint : String) : Fault :=
  .internal ("JSON serialization error: " ++ complaint)

end Fault

end AttributeGateway
