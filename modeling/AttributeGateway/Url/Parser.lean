import AttributeGateway.Url.Host

/-!
# Reading URLs

Controls and spaces around a URL, and tabs and line ends inside it, do not belong to it. A scheme is
a letter followed by letters, digits and some marks, up to a colon. Under the schemes of the web any
number of slashes leads to the host, and backslashes are slashes.
-/

namespace AttributeGateway

namespace Url

/-- The part of a text before the first character of a kind, and the rest. -/
def breakAt (stop : Char → Bool) (text : List Char) : List Char × List Char :=
  (text.takeWhile fun c => !stop c, text.dropWhile fun c => !stop c)

/-- What a URL is read from. -/
def clean (text : List Char) : List Char :=
  let outer (c : Char) : Bool := c.toNat ≤ 0x20
  ((text.dropWhile outer).reverse.dropWhile outer).reverse.filter
    fun c => c != '\t' && c != '\n' && c != '\r'

/-- The scheme, in lower case, and what follows its colon. -/
def scheme? (text : List Char) : Option (String × List Char) :=
  match breakAt (· == ':') text with
  | (c :: scheme, ':' :: rest) =>
    if c.isAlpha && scheme.all fun c => c.isAlphanum || c == '+' || c == '-' || c == '.' then
      some (String.ofList ((c :: scheme).map Char.toLower), rest)
    else none
  | _ => none

/-- The usual port of a scheme of the web. -/
def usualPort? : String → Option Nat
  | "http" => some 80
  | "ws" => some 80
  | "https" => some 443
  | "wss" => some 443
  | "ftp" => some 21
  | _ => none

/-- Whether a character ends the part of a URL that names the host. -/
def endsAuthority (web : Bool) (c : Char) : Bool :=
  c == '/' || c == '?' || c == '#' || (web && c == '\\')

/-- The port that a text stands for; none if it is empty. -/
def port? (text : List Char) : Except Flaw (Option Nat) :=
  if text.all Char.isDigit then
    let n := Json.digitsValue text
    if n ≤ 65535 then .ok (if text.isEmpty then none else some n) else .error .badPort
  else .error .badPort

/-- The text of a port, which ends at a backslash. -/
def portText (port : Option (List Char)) : List Char := (port.getD []).takeWhile (· != '\\')

/-- Where the host ends: at the first colon outside brackets. -/
def splitPort : List Char → Bool → List Char × Option (List Char)
  | [], _ => ([], none)
  | c :: rest, inside =>
    if c = ':' ∧ inside = false then ([], some rest)
    else
      let (host, port) :=
        splitPort rest (if c = '[' then true else if c = ']' then false else inside)
      (c :: host, port)

/-- The user name and password with the at sign behind them, and what follows it. -/
def splitUser (authority : List Char) : Option (List Char) × List Char :=
  let back := authority.reverse
  match back.dropWhile (· != '@') with
  | _ :: user => (some user.reverse, (back.takeWhile (· != '@')).reverse)
  | [] => (none, authority)

/-- The text of user name and password. -/
def userText (user : List Char) : String :=
  let (name, password) := breakAt (· == ':') user
  let password := password.drop 1
  if name.isEmpty && password.isEmpty then ""
  else
    encode userSet name ++ (if password.isEmpty then "" else ":" ++ encode userSet password) ++ "@"

/-- The segments of a path, without those that lead nowhere or back. -/
def segments (text : List Char) : List String :=
  let parts := splitAt '/' (text.map fun c => if c = '\\' then '/' else c)
  let last := parts.length - 1
  (parts.zipIdx.foldl (fun (done : List String) (part, i) =>
    let lower := (String.ofList (part.map Char.toLower)).replace "%2e" "."
    if lower = ".." then (if i = last then "" :: done.drop 1 else done.drop 1)
    else if lower = "." then (if i = last then "" :: done else done)
    else encode pathSet part :: done) []).reverse

/-- Query and fragment. -/
def tail (text : List Char) : Option String × Option String :=
  let (query, fragment) := breakAt (· == '#') text
  (match query with
    | '?' :: query => some (encode querySet query)
    | _ => none,
  match fragment with
    | '#' :: fragment => some (encode fragmentSet fragment)
    | _ => none)

/-- The URL of a scheme of the web. -/
def ofWeb (scheme : String) (text : List Char) : Except Flaw Url := do
  let text := text.dropWhile fun c => c == '/' || c == '\\'
  let (authority, rest) := breakAt (endsAuthority true) text
  let (user, place) := splitUser authority
  let (host, port) := splitPort place false
  if host.isEmpty then throw .emptyHost
  let host ← host? host
  let port ← port? (portText port)
  let (path, rest) := breakAt (fun c => c == '?' || c == '#') rest
  let (query, fragment) := tail rest
  return {
    scheme, user := userText (user.getD []), host
    port := if port = usualPort? scheme then none else port
    path := segments (path.drop 1), query, fragment
    rest := String.ofList text }

/-- Whether a text names a drive. -/
def isDrive : List Char → Bool
  | [letter, mark] => letter.isAlpha && (mark == ':' || mark == '|')
  | _ => false

/-- The URL of a file: behind two slashes stands a host, unless nothing or a drive stands there. -/
def ofFile (scheme : String) (text : List Char) : Except Flaw Url := do
  let isSlash (c : Char) : Bool := c == '/' || c == '\\'
  if (text.take 2).length = 2 ∧ (text.take 2).all isSlash = true then
    let (host, _) := breakAt (endsAuthority true) (text.drop 2)
    if !host.isEmpty && !isDrive host then
      let _ ← host? host
  return { scheme, rest := String.ofList text }

/-- The URL of a scheme of no known kind. Nothing need stand where its host would, unless a port or
a user is named there, or an at sign alone leads on to a path, a query or a fragment. -/
def ofOther (scheme : String) (text : List Char) : Except Flaw Url := do
  if let '/' :: '/' :: rest := text then
    let (authority, rest) := breakAt (endsAuthority false) rest
    let (user, place) := splitUser authority
    let (host, port) := splitPort place false
    checkOpaque host
    let named := userText (user.getD []) != "" || (user == some [] && !rest.isEmpty)
    if host.isEmpty && (port.isSome || named) then throw .emptyHost
    let _ ← port? (portText port)
  return { scheme, rest := String.ofList text }

/-- The URL that a text stands for. -/
def parse (text : String) : Except Flaw Url :=
  match scheme? (clean text.toList) with
  | none => .error .relative
  | some (scheme, rest) =>
    if (usualPort? scheme).isSome then ofWeb scheme rest
    else if scheme = "file" then ofFile scheme rest
    else ofOther scheme rest

end Url

end AttributeGateway
