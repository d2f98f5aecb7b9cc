import AttributeGateway.Fault
import AttributeGateway.Text.Listing

/-!
# Attribute paths

A path names an attribute of a bean and the steps from its value down to the part that is wanted,
as in `HeapMemoryUsage.used`, `Properties[java.version]` or `Threads[0].name`. A step is a field
or a selector. The name of the attribute is a field that is not empty; `Path` keeps it apart from
the further steps, so that every path has one.

In its written form a field follows a point, a selector stands between brackets, and a backslash
makes the character after it literal.
-/

namespace AttributeGateway

/-- One step of a path. -/
inductive Segment where
  /-- A field: an accessor or member of the value. -/
  | field (name : String)
  /-- A selector: a key of a mapping or an index of a sequence. -/
  | selector (key : String)
  deriving DecidableEq, Repr

/-- An attribute and the steps down from its value. -/
structure Path where
  /-- The attribute that is read. -/
  attributeName : String
  /-- The steps that are walked from its value. -/
  rest : List Segment
  attributeName_ne : attributeName ≠ ""
  deriving DecidableEq

namespace Segment

/-- The text with a backslash before each backslash and each character of a class. -/
def escape (special : Char → Bool) (text : String) : List Char :=
  text.toList.flatMap fun c => if c == '\\' || special c then ['\\', c] else [c]

/-- The written form of a segment. -/
def chars : Segment → List Char
  | .field name => escape (fun c => c == '.' || c == '[') name
  | .selector key => '[' :: (escape (· == ']') key ++ [']'])

/-- The written form of a segment as a string. -/
def text (s : Segment) : String := String.ofList s.chars

/-- The written form of a segment that follows another one. -/
def following : Segment → List Char
  | .field name => '.' :: (field name).chars
  | .selector key => (selector key).chars

/-- A segment as a listing shows it. -/
def listed : Segment → String
  | .field name => "Field(" ++ Text.quoted name ++ ")"
  | .selector key => "Selector(" ++ Text.quoted key ++ ")"

/-- The written form of a list of segments. -/
def display : List Segment → List Char
  | [] => []
  | s :: rest => s.chars ++ rest.flatMap following

end Segment

namespace Path

/-- All segments of a path. -/
def segments (p : Path) : List Segment := .field p.attributeName :: p.rest

/-- The written form of a path. -/
def text (p : Path) : String := String.ofList (Segment.display p.segments)

/-- The path with these segments, if they begin with a field that is not empty. -/
def ofSegments (segments : List Segment) : Except Fault Path :=
  let refused := Except.error
    (.invalidPath (String.intercalate "," (segments.map Segment.listed)))
  match segments with
  | .field name :: rest => if h : name ≠ "" then .ok ⟨name, rest, h⟩ else refused
  | _ => refused

end Path

end AttributeGateway
