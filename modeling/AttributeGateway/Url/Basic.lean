import AttributeGateway.Text.Listing
import AttributeGateway.Text.Numeral
import AttributeGateway.Text.Utf8

/-!
# URLs

An agent is known by a URL: a scheme, a host with an optional port, a path of segments, and an
optional query and fragment. Of URLs with schemes that address no agent, the parts behind the scheme
are kept as they were written.

Main definitions: `Url`, `Url.text`, `Url.target`, `Url.child`.
-/

namespace AttributeGateway

namespace Url

/-- Why a text is no URL. -/
inductive Flaw where
  | emptyHost
  | badDomain
  | badPort
  | badIpv4
  | badIpv6
  | badHostCharacter
  /-- There is no scheme. -/
  | relative
  deriving DecidableEq, Repr

/-- The wording of a flaw. -/
def Flaw.message : Flaw → String
  | .emptyHost => "empty host"
  | .badDomain => "invalid international domain name"
  | .badPort => "invalid port number"
  | .badIpv4 => "invalid IPv4 address"
  | .badIpv6 => "invalid IPv6 address"
  | .badHostCharacter => "invalid domain character"
  | .relative => "relative URL without a base"

/-! ### Percent encoding -/

/-- The percent encoding of a byte. -/
def encodeByte (b : UInt8) : List Char :=
  let digits := (Text.hexDigits b.toNat).map Char.toUpper
  '%' :: List.replicate (2 - digits.length) '0' ++ digits

/-- Percent-encodes the characters of a text that belong to a set, as well as controls and
characters outside ASCII. -/
def encode (set : List Char) (text : List Char) : String :=
  String.ofList (text.flatMap fun c =>
    if c.toNat < 0x20 ∨ 0x7F ≤ c.toNat ∨ c ∈ set then
      (Text.toBytes (String.singleton c)).flatMap encodeByte
    else [c])

/-- What is encoded in a fragment. -/
def fragmentSet : List Char := [' ', '"', '<', '>', '\x60']

/-- What is encoded in a query. -/
def querySet : List Char := [' ', '"', '#', '<', '>', '\'']

/-- What is encoded in a path. -/
def pathSet : List Char := fragmentSet ++ ['#', '?', '\x7b', '\x7d']

/-- What is encoded in a user name or a password. -/
def userSet : List Char := pathSet ++ ['/', ':', ';', '=', '@', '[', '\\', ']', '^', '|']

end Url

/-- A URL. -/
structure Url where
  /-- The scheme, in lower case. -/
  scheme : String
  /-- User name and password, with a colon between them and an at sign behind them. -/
  user : String := ""
  host : String := ""
  /-- The port, unless it is the usual one of the scheme. -/
  port : Option Nat := none
  /-- The segments of the path. -/
  path : List String := []
  query : Option String := none
  fragment : Option String := none
  /-- What stands behind the scheme of a URL that addresses no agent. -/
  rest : String := ""
  deriving DecidableEq, Repr

namespace Url

/-- Whether the scheme is one under which agents are addressed. -/
def addressesAgent (u : Url) : Bool := u.scheme == "http" || u.scheme == "https"

/-- The text of a path. -/
def pathText (u : Url) : String := String.join (u.path.map ("/" ++ ·))

/-- What is asked for at the host: path and query. -/
def target (u : Url) : String := u.pathText ++ u.query.elim "" ("?" ++ ·)

/-- Host and port. -/
def address (u : Url) : String := u.host ++ u.port.elim "" fun p => ":" ++ Text.decimal p

/-- The text of a URL. -/
def text (u : Url) : String :=
  if u.addressesAgent then
    u.scheme ++ "://" ++ u.user ++ u.address ++ u.target ++ u.fragment.elim "" ("#" ++ ·)
  else u.scheme ++ ":" ++ u.rest

/-- The least length of a text that is too long for a request. -/
def excessiveLength : Nat := 0xFFFF

/-- The characters that a host may have and the address of a request may not. -/
def unaddressable : List Char := ['"', '\x60', '\x7b', '\x7d']

/-- Whether a request can be made for a URL: the text is not too long, and the host has only
characters that an address may have. -/
def canBeRequested (u : Url) : Bool :=
  u.text.utf8ByteSize < excessiveLength && !u.host.toList.any unaddressable.contains

/-- The URL with one more segment, which takes the place of an empty last one. -/
def child (u : Url) (segment : String) : Url :=
  let path := if u.path.getLast? = some "" then u.path.dropLast else u.path
  { u with path := path ++ [segment] }

end Url

end AttributeGateway
