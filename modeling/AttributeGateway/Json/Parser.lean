import AttributeGateway.Json.Token

/-!
# Reading JSON

The tokens of a document are read from left to right with a stack of the arrays and objects that
have been begun and not ended. What may come next is an `Awaited`; a token that may not come next
ends the reading. At most `maxDepth` arrays and objects may be open at the same time.
-/

namespace AttributeGateway

namespace Json

/-- How many arrays and objects may be open at the same time. -/
def maxDepth : Nat := 127

/-- An array or object that has been begun, with what has been read of it, the last item first. -/
inductive Container where
  /-- An array with its items. -/
  | array (items : List Json)
  /-- An object with its members, and the name of the member whose value is being read. -/
  | object (members : List (String × Json)) (name : String)

/-- What may come next. -/
inductive Awaited where
  /-- A value. -/
  | value
  /-- The first item of the array that has just been begun, or its end. -/
  | itemOrEnd
  /-- The first name of the object that has just been begun, or its end. -/
  | nameOrEnd
  /-- A name. -/
  | name
  /-- The colon after a name. -/
  | colon
  /-- What follows a value inside a container: a comma or the end of the container. -/
  | commaOrEnd
  /-- Nothing, for the document is complete. -/
  | finished (document : Json)

/-- How far reading has come. -/
structure Reading where
  /-- The containers that are open, the innermost one first. -/
  stack : List Container
  awaited : Awaited

/-- Files a complete value into the innermost open container, or ends the document with it. -/
def Reading.complete (stack : List Container) (j : Json) : Reading :=
  match stack with
  | [] => ⟨[], .finished j⟩
  | .array items :: rest => ⟨.array (j :: items) :: rest, .commaOrEnd⟩
  | .object members name :: rest => ⟨.object ((name, j) :: members) name :: rest, .commaOrEnd⟩

/-- Begins a container. -/
def Reading.begin (stack : List Container) (c : Container) (awaited : Awaited) :
    Option Reading :=
  if stack.length < maxDepth then some ⟨c :: stack, awaited⟩ else none

/-- Reads a token that is to begin a value. -/
def Reading.beginValue (stack : List Container) : Token → Option Reading
  | .null => some (complete stack .null)
  | .bool b => some (complete stack (.bool b))
  | .number n => some (complete stack (.number n))
  | .string s => some (complete stack (.string s))
  | .beginArray => Reading.begin stack (.array []) .itemOrEnd
  | .beginObject => Reading.begin stack (.object [] "") .nameOrEnd
  | _ => none

/-- Reads one token. -/
def Reading.next (r : Reading) (t : Token) : Option Reading :=
  match r.awaited, t, r.stack with
  | .value, t, stack => beginValue stack t
  | .itemOrEnd, .endArray, .array _ :: rest => some (complete rest (ofItems []))
  | .itemOrEnd, t, stack => beginValue stack t
  | .nameOrEnd, .endObject, .object _ _ :: rest => some (complete rest (ofEntries []))
  | .nameOrEnd, .string s, .object members _ :: rest => some ⟨.object members s :: rest, .colon⟩
  | .name, .string s, .object members _ :: rest => some ⟨.object members s :: rest, .colon⟩
  | .colon, .colon, stack => some ⟨stack, .value⟩
  | .commaOrEnd, .comma, .array items :: rest => some ⟨.array items :: rest, .value⟩
  | .commaOrEnd, .comma, .object members name :: rest => some ⟨.object members name :: rest, .name⟩
  | .commaOrEnd, .endArray, .array items :: rest => some (complete rest (ofItems items.reverse))
  | .commaOrEnd, .endObject, .object members _ :: rest =>
    some (complete rest (ofEntries members.reverse))
  | _, _, _ => none

/-- The document of a list of tokens. -/
def ofTokens? (tokens : List Token) : Option Json :=
  match tokens.foldlM Reading.next ⟨[], .value⟩ with
  | some ⟨_, .finished j⟩ => some j
  | _ => none

/-- The document that a text stands for. -/
def ofText? (text : List Char) : Option Json := (tokens text).bind ofTokens?

/-- The document that a string stands for. -/
def parse? (text : String) : Option Json := ofText? text.toList

end Json

end AttributeGateway
