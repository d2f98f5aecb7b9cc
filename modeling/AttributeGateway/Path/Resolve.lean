import AttributeGateway.Path.Basic
import AttributeGateway.Text.Upper
import AttributeGateway.Value.Basic

/-!
# Walking a path

The steps of a path are walked from a value downwards. What a step means depends on the value that
it meets. A selector is a key of a mapping or an object (an absent key leads to `null`) or an
index of a sequence. A field is a member of a record or an object, or of a platform object, which
is asked for the accessor first. Once `null` is met the walk ends with `null`, whatever steps are
left.
-/

namespace AttributeGateway

/-- The name of the accessor of a field: `getUsed` for `used`. -/
def accessorName (field : String) : String := "get" ++ Text.capitalise field

namespace Value

/-- The node that a selector leads to. -/
def select (key : String) : Value → Except Fault Value
  | .keyed .record _ _ => .error (.invalidSelector (Segment.selector key).text "record")
  | .keyed _ keys child =>
    match keys.find? key with
    | some i => .ok (child i)
    | none => .ok .null
  | .sequence n item =>
    match Text.readNat Text.maxWord64 key with
    | .error _ => .error (.invalidIndex key)
    | .ok index =>
      if h : index < n then .ok (item ⟨index, h⟩) else .error (.indexOutOfRange index n)
  | v => .error (.invalidSelector (Segment.selector key).text v.kind)

/-- The node that a field leads to. -/
def field (name : String) : Value → Except Fault Value
  | .keyed .mapping _ _ => .error (.invalidSelector name "mapping")
  | .keyed shape keys child =>
    match keys.find? name with
    | some i => .ok (child i)
    | none => .error (.noSuchMember name (Value.kind (.keyed shape keys child)))
  | .foreign face returned held =>
    match face.accessors.finIdxOf? (accessorName name) with
    | some i => .ok (returned i)
    | none =>
      match face.members.finIdxOf? name with
      | some i => .ok (held i)
      | none => .error (.noSuchMember name face.typeName)
  | .scalar _ => .error (.noSuchMember name "scalar")
  | v => .error (.invalidSelector name v.kind)

/-- A mapping and an object are asked for the key, and an absent one leads to `null`. -/
theorem select_keyed {shape : Shape} (h : shape ≠ .record) {keys : KeyList}
    (child : Fin keys.length → Value) (key : String) :
    (Value.keyed shape keys child).select key = .ok ((keys.find? key).elim .null child) := by
  cases shape with
  | record => exact absurd rfl h
  | mapping | object => cases hk : keys.find? key <;> simp [select, hk]

/-- A record and an object are asked for the field, and an absent one is a fault. -/
theorem field_keyed {shape : Shape} (h : shape ≠ .mapping) {keys : KeyList}
    (child : Fin keys.length → Value) (name : String) :
    (Value.keyed shape keys child).field name =
      (keys.find? name).elim (.error (.noSuchMember name (Value.kind (.keyed shape keys child))))
        fun i => .ok (child i) := by
  cases shape with
  | mapping => exact absurd rfl h
  | record | object => cases hk : keys.find? name <;> simp [field, hk]

/-- The node that one step leads to. -/
def step (s : Segment) (v : Value) : Except Fault Value :=
  match s with
  | .selector key => v.select key
  | .field name => v.field name

/-- The node that the steps lead to. -/
def resolve (v : Value) : List Segment → Except Fault Value
  | [] => .ok v
  | s :: rest =>
    if v.isNull then .ok .null
    else
      match v.step s with
      | .ok w => w.resolve rest
      | .error f => .error f

end Value

end AttributeGateway
