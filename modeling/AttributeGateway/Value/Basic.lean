import AttributeGateway.Double.Layout
import AttributeGateway.KeyList
import AttributeGateway.Text.Numeral

/-!
# Values

An attribute read from a remote endpoint is a tree of mixed kinds: scalars, records with named
fields, mappings with string keys, sequences, and platform objects of which only the accessors,
the members and a text are known.

Keyed nodes come in three shapes that answer different path segments: a record has fields, a
mapping has selectable keys, and an object, which stands for keyed data whose shape was lost on
the way, answers both.

Main definitions: `Value`, its constructors from lists of entries, `Value.kind`.
-/

namespace AttributeGateway

/-- A leaf of a value. -/
inductive Scalar where
  | bool (b : Bool)
  | int (i : Int64)
  | float (x : Double)
  | text (s : String)
  deriving DecidableEq

/-- What keyed data stands for. -/
inductive Shape where
  /-- Named fields. -/
  | record
  /-- Keys that are selected. -/
  | mapping
  /-- Either of the two. -/
  | object
  deriving DecidableEq, Repr

/-- What is known of a platform object besides the values that it hands out. -/
structure Face where
  /-- Which object it is: two objects with the same face and the same answers are still two. -/
  identity : Nat
  /-- The name of its type. -/
  typeName : String
  /-- The text written for the object. -/
  text : String
  /-- The names of its accessors; of a repeated name the first one counts. -/
  accessors : List String
  /-- The names of its members; of a repeated name the first one counts. -/
  members : List String

/-- A node of a value tree. -/
inductive Value where
  /-- No value. -/
  | null
  /-- A leaf. -/
  | scalar (s : Scalar)
  /-- Keyed data: distinct keys and the child of each of them. -/
  | keyed (shape : Shape) (keys : KeyList) (child : Fin keys.length → Value)
  /-- An ordered sequence. -/
  | sequence (length : Nat) (item : Fin length → Value)
  /-- A platform object, with what its accessors return and its members hold. -/
  | foreign (face : Face) (returned : Fin face.accessors.length → Value)
      (held : Fin face.members.length → Value)

namespace Value

instance : Inhabited Value := ⟨.null⟩

/-- A boolean. -/
def bool (b : Bool) : Value := .scalar (.bool b)

/-- An integer. -/
def int (i : Int64) : Value := .scalar (.int i)

/-- A floating-point number. -/
def float (x : Double) : Value := .scalar (.float x)

/-- A text. -/
def text (s : String) : Value := .scalar (.text s)

/-- The keyed node that holds the entries of a table. -/
def ofTable (shape : Shape) (t : Table String Value) : Value := .keyed shape t.keyList t.child

/-- The keyed node of a list of entries: a repeated key keeps its first place and its last
value. -/
def ofEntries (shape : Shape) (entries : List (String × Value)) : Value :=
  ofTable shape (Table.ofList entries)

/-- The sequence of a list of items. -/
def ofItems (items : List Value) : Value := .sequence items.length items.get

/-- The platform object with the given accessors and members. -/
def ofObject (identity : Nat) (typeName text : String)
    (accessors members : List (String × Value)) : Value :=
  .foreign ⟨identity, typeName, text, accessors.map Prod.fst, members.map Prod.fst⟩
    (fun i => (accessors.get (i.cast (List.length_map _))).2)
    (fun i => (members.get (i.cast (List.length_map _))).2)

/-- Whether the node is `null`. -/
def isNull : Value → Bool
  | .null => true
  | _ => false

/-- The word for the kind of a node in messages. -/
def kind : Value → String
  | .null => "null"
  | .scalar _ => "scalar"
  | .keyed .record _ _ => "record"
  | .keyed .mapping _ _ => "mapping"
  | .keyed .object _ _ => "object"
  | .sequence _ _ => "sequence"
  | .foreign _ _ _ => "opaque"

end Value

/-- A leaf as an answer of its own. -/
def Scalar.plain : Scalar → String
  | .bool true => "true"
  | .bool false => "false"
  | .int i => Text.decimal i.toInt
  | .float x => x.text
  | .text s => s

end AttributeGateway
