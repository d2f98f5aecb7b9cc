import AttributeGateway.Value.Basic

/-!
# Equality of values

Two values are equal if they agree node by node: floating-point leaves as numbers (so a NaN is
not even equal to itself), keyed nodes of the same shape without regard to the order of their
entries, platform objects only if they are the same object.
-/

namespace AttributeGateway

/-- Equality of leaves, with numbers compared as numbers. -/
def Scalar.eq : Scalar → Scalar → Bool
  | .float x, .float y => x.eq y
  | s, t => s == t

/-- Equality of values. Of two keyed nodes with equally many keys, each entry of the first must
have an equal one under the same key in the second. -/
def Value.eq : Value → Value → Bool
  | .null, .null => true
  | .scalar s, .scalar t => s.eq t
  | .keyed shape keys child, .keyed shape' keys' child' =>
    shape == shape' && keys.length == keys'.length &&
      (List.finRange keys.length).all fun i =>
        match keys'.find? (keys.key i) with
        | some j => (child i).eq (child' j)
        | none => false
  | .sequence n item, .sequence n' item' =>
    if h : n = n' then (List.finRange n).all fun i => (item i).eq (item' (i.cast h)) else false
  | .foreign face _ _, .foreign face' _ _ => face.identity == face'.identity
  | _, _ => false

end AttributeGateway
