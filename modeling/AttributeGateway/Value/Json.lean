import AttributeGateway.Json.Printer
import AttributeGateway.Value.Basic

/-!
# Values and JSON documents

Agents answer in JSON, and composite values are written as JSON. A document does not say whether
keyed data is a record or a mapping, so what is read becomes an object; integers that exceed the
signed range become texts of their digits. In the other direction numbers that JSON cannot write
and platform objects become texts.
-/

namespace AttributeGateway

/-- The value of a number of a document. -/
def Scalar.ofNumber : Json.Number → Scalar
  | .integer i _ => if i ≤ 0x7FFFFFFFFFFFFFFF then .int (Int64.ofInt i) else .text (Text.decimal i)
  | .real x _ => .float x

/-- A leaf as a document. -/
def Scalar.toJson : Scalar → Json
  | .bool b => .bool b
  | .int i => .number (.integer i.toInt ⟨i.le_toInt, by have := i.toInt_lt; omega⟩)
  | .float x => if h : x.isFinite = true then .number (.real x h) else .string x.text
  | .text s => .string s

namespace Value

/-- The value that a document stands for. -/
def ofJson : Json → Value
  | .null => .null
  | .bool b => .scalar (.bool b)
  | .number n => .scalar (.ofNumber n)
  | .string s => .scalar (.text s)
  | .array n item => .sequence n fun i => ofJson (item i)
  | .object keys child => .keyed .object keys fun i => ofJson (child i)

/-- The document of a value. -/
def toJson : Value → Json
  | .null => .null
  | .scalar s => s.toJson
  | .keyed _ keys child => .object keys fun i => (child i).toJson
  | .sequence n item => .array n fun i => (item i).toJson
  | .foreign face _ _ => .string face.text

/-- The text written for a value: leaves and platform objects as they are, composite values as
JSON. -/
def render : Value → String
  | .null => "null"
  | .scalar s => s.plain
  | .foreign face _ _ => face.text
  | v => v.toJson.print

end Value

end AttributeGateway
