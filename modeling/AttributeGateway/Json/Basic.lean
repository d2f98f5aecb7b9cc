import AttributeGateway.Double.Layout
import AttributeGateway.KeyList

/-!
# JSON documents

A JSON document as it is exchanged with agents: numbers are either integers of 64 bits, signed or
unsigned, or finite floating-point numbers, and the members of an object have distinct names.
-/

namespace AttributeGateway

namespace Json

/-- A number of a document. -/
inductive Number where
  /-- An integer of 64 bits, signed or unsigned. -/
  | integer (i : Int) (in_range : -0x8000000000000000 ≤ i ∧ i ≤ 0xFFFFFFFFFFFFFFFF)
  /-- A finite floating-point number. -/
  | real (x : Double) (finite : x.isFinite = true)

end Json

/-- A JSON document. -/
inductive Json where
  | null
  | bool (b : Bool)
  | number (n : Json.Number)
  | string (s : String)
  | array (length : Nat) (item : Fin length → Json)
  | object (keys : KeyList) (child : Fin keys.length → Json)

namespace Json

instance : Inhabited Json := ⟨.null⟩

/-- The array of a list of items. -/
def ofItems (items : List Json) : Json := .array items.length items.get

/-- The object of a list of members: a repeated name keeps its first place and its last value. -/
def ofEntries (entries : List (String × Json)) : Json :=
  let t := Table.ofList entries
  .object t.keyList t.child

end Json

end AttributeGateway
