import AttributeGateway.Agent.Body
import AttributeGateway.Text.Numeral

/-!
# Envelopes

The body of every reply of an agent is an envelope: a status, and a value or the type and text of an
error. It is written as an object, in which other members are passed over and none of the four may
occur twice, or as an array of the four in order, the last ones of which may be missing. Only the
status must be there. Of a member that is passed over only the form matters.
-/

namespace AttributeGateway

namespace Agent

/-- The content of an envelope. -/
structure Envelope where
  status : Nat
  value : Json := .null
  error : Option String := none
  errorType : Option String := none

namespace Envelope

/-- The status of an envelope that reports success. -/
def success : Nat := 200

/-- A status: a number of 16 bits. -/
def status? : Json → Option Nat
  | .number (.integer i _) => if 0 ≤ i ∧ i ≤ 0xFFFF then some i.toNat else none
  | _ => none

/-- A text that may be missing. -/
def text? : Json → Option (Option String)
  | .null => some none
  | .string s => some (some s)
  | _ => none

/-- The names of the members that are not passed over. -/
def names : List String := ["status", "value", "error", "error_type"]

/-- Whether what comes next belongs to the value of a member that is passed over. -/
def passesOver : Json.Reading → Bool
  | ⟨[.object _ name], .value⟩ => !names.contains name
  | ⟨_ :: outer :: stack, _⟩ =>
    match (outer :: stack).getLast? with
    | some (.object _ name) => !names.contains name
    | _ => false
  | _ => false

/-- Passes over a token. What may come next depends on the two innermost containers alone, and only
these are reckoned among the containers that are open. -/
def passOver (r : Json.Reading) (t : Json.Token) : Option Json.Reading :=
  (Json.Reading.next ⟨r.stack.take 2, r.awaited⟩ t).map fun r' =>
    ⟨r'.stack ++ r.stack.drop 2, r'.awaited⟩

/-- Reads one piece of a body, or passes over it. -/
def next (r : Json.Reading) (piece : Body.Piece) : Option Json.Reading :=
  if passesOver r then piece.form?.bind (passOver r) else piece.token?.bind r.next

/-- What a body consists of. -/
inductive Content where
  /-- The members of an object, in order and with repetitions; the values of those that are passed
  over are of no account. -/
  | members (members : List (String × Json))
  /-- The items of an array. -/
  | items (items : List Json)

/-- What the pieces of a body consist of, if they are an object or an array. -/
def content? (pieces : List Body.Piece) : Option Content :=
  match pieces.foldlM next ⟨[], .value⟩ with
  | some ⟨_, .finished (.array _ item)⟩ => some (.items (List.ofFn item))
  | some ⟨_, .finished (.object _ _)⟩ =>
    -- The end of an object joins its members, so they are taken from what has been read before it.
    match pieces.dropLast.foldlM next ⟨[], .value⟩ with
    | some ⟨[.object members _], _⟩ => some (.members members.reverse)
    | _ => none
  | _ => none

/-- The member with a name, if there is one; two of them are none. -/
def member? (members : List (String × Json)) (name : String) : Option (Option Json) :=
  match members.filter fun m => m.1 = name with
  | [] => some none
  | [m] => some (some m.2)
  | _ => none

/-- The envelope of the four parts. -/
def ofParts? (status value error errorType : Option Json) : Option Envelope := do
  let status ← status? (← status)
  let error ← text? (error.getD .null)
  let errorType ← text? (errorType.getD .null)
  return ⟨status, value.getD .null, error, errorType⟩

/-- The envelope of the members of an object. -/
def ofMembers? (members : List (String × Json)) : Option Envelope := do
  ofParts? (← member? members "status") (← member? members "value") (← member? members "error")
    (← member? members "error_type")

/-- The envelope of the items of an array. -/
def ofItems? (items : List Json) : Option Envelope :=
  if items.length ≤ 4 then ofParts? items[0]? items[1]? items[2]? items[3]? else none

/-- The envelope of the content of a body. -/
def ofContent? : Content → Option Envelope
  | .members members => ofMembers? members
  | .items items => ofItems? items

/-- The envelope that a body stands for. -/
def ofBody? (body : List UInt8) : Option Envelope := (content? (Body.pieces body)).bind ofContent?

/-- The last part of a type name that has dots between its parts. -/
def shortName (typeName : String) : String :=
  String.ofList (typeName.toList.reverse.takeWhile (· != '.')).reverse

/-- What an envelope that reports no success complains of. -/
def complaint (e : Envelope) : String :=
  match e.errorType, e.error with
  | some kind, some text => shortName kind ++ ": " ++ text
  | none, some text => text
  | some kind, none => shortName kind
  | none, none => "Jolokia request failed with status " ++ Text.decimal e.status

end Envelope

end Agent

end AttributeGateway
