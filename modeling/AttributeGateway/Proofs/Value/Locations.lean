import AttributeGateway.Proofs.Path.Segments
import AttributeGateway.Proofs.Value.Walking

/-!
# Where a node stands

A node of a value tree stands where the ways down from the root have led: by a key of a mapping or
an object, by an index of a sequence, or by the name of a field of a record or an object. Each kind
of way has a segment, and the segment leads from the node above to the node below. So every node of
the value of an attribute has a path that names it, and the text of this path may be sent for it,
whatever characters the keys and the names consist of.

* `Way`, `Way.segment` — the ways down, and how a path writes them.
* `Child`, `Stands` — what stands directly below a node, and where a node stands in a tree.
* `Stands.walks` — the segments lead there.
* `node_addressable` — the text of the path is read, and leads there.
-/

namespace AttributeGateway

namespace Value

/-- A way from a node to one that stands directly below it. An index is a machine word, which is
enough for every sequence that a machine holds. -/
inductive Way where
  /-- To what is kept under a key. -/
  | key (key : String)
  /-- To an item of a sequence. -/
  | index (i : UInt64)
  /-- To a field. -/
  | field (name : String)

/-- How a path writes a way: keys and decimal indices stand between brackets. -/
def Way.segment : Way → Segment
  | .key k => .selector k
  | .index i => .selector (Text.decimal i.toNat)
  | .field name => .field name

/-- What stands directly below a node. -/
inductive Child : Value → Way → Value → Prop where
  /-- A mapping and an object have keys. -/
  | key {shape : Shape} {keys : KeyList} {child : Fin keys.length → Value} (h : shape ≠ .record)
      (i : Fin keys.length) : Child (.keyed shape keys child) (.key (keys.key i)) (child i)
  /-- A sequence has indices. -/
  | index {n : Nat} {item : Fin n → Value} (i : UInt64) (h : i.toNat < n) :
    Child (.sequence n item) (.index i) (item ⟨i.toNat, h⟩)
  /-- A record and an object have fields. A field without a name cannot be asked for. -/
  | field {shape : Shape} {keys : KeyList} {child : Fin keys.length → Value} (h : shape ≠ .mapping)
      (i : Fin keys.length) (hname : keys.key i ≠ "") :
    Child (.keyed shape keys child) (.field (keys.key i)) (child i)

/-- Where a node stands below another one. -/
inductive Stands : Value → List Way → Value → Prop where
  /-- No step leads to the node itself. -/
  | here (v : Value) : Stands v [] v
  /-- A step leads to a child, and the others from there. -/
  | under {v w node : Value} {e : Way} {rest : List Way} (hc : Child v e w)
      (h : Stands w rest node) : Stands v (e :: rest) node

variable {v w node : Value} {e : Way} {location : List Way}

/-! ### Single steps -/

/-- **The segment of a way leads to the child.** -/
theorem Child.step_eq (h : Child v e w) : v.step e.segment = .ok w := by
  cases h with
  | @key shape keys child h i =>
    show (Value.keyed shape keys child).select (keys.key i) = .ok (child i)
    rw [select_keyed h, KeyList.find?_key]
    rfl
  | index i hi =>
    have hword : i.toNat ≤ Text.maxWord64 := Nat.le_pred_of_lt i.toNat_lt
    exact select_sequence_iff.2 (.item (Text.denotes_decimal i.toNat) hword hi)
  | @field shape keys child h i _ =>
    show (Value.keyed shape keys child).field (keys.key i) = .ok (child i)
    rw [field_keyed h, KeyList.find?_key]
    rfl

theorem Child.isNull_eq (h : Child v e w) : v.isNull = false := by
  cases h <;> rfl

theorem Child.named (h : Child v e w) : e.segment ≠ .field "" := by
  cases h with
  | key | index => intro hs; cases hs
  | field _ i hname =>
    intro hs
    exact hname (Segment.field.inj hs)

/-! ### Locations -/

/-- The segments of a location lead to the node that stands there. -/
theorem Stands.walks (h : Stands v location node) : Walks v (location.map Way.segment) node := by
  induction h with
  | here v => exact .stay v
  | under hc _ ih => exact .onward hc.isNull_eq hc.step_eq ih

/-- No field on the way is without a name. -/
theorem Stands.named (h : Stands v location node) :
    ∀ name, .field name ∈ location.map Way.segment → name ≠ "" := by
  induction h with
  | here v => simp
  | under hc _ ih =>
    intro name hm
    rcases List.mem_cons.1 hm with hm | hm
    · rintro rfl
      exact hc.named hm.symm
    · exact ih name hm

/-- **Every node has a path.** Let a node stand somewhere in the value of an attribute. The name of
the attribute and the segments of the location are taken as a path, its text is read as this path,
and walking the path from the value leads to the node. -/
theorem node_addressable {name : String} (hname : name ≠ "") (h : Stands v location node) :
    ∃ p, Path.ofSegments (.field name :: location.map Way.segment) = .ok p ∧
      Path.parse p.text = .ok p ∧ p.attributeName = name ∧
      p.rest = location.map Way.segment ∧ v.resolve p.rest = .ok node := by
  let p : Path := ⟨name, location.map Way.segment, hname⟩
  refine ⟨p, ?_, ?_, rfl, rfl, h.walks.resolve_eq⟩
  · exact Path.ofSegments_eq_ok_iff.2 rfl
  · exact Path.parse_text_self_iff.2 h.named

/-- A mapping whose key has every character that is protected, with records in a sequence. -/
def threads : Value :=
  ofEntries .mapping [("a.b]\\[1", ofItems [null, ofEntries .record [(".x[y\\", int 7)]])]

/-- A node behind a key and a name that have to be protected, and its path. -/
theorem node_addressable_protected :
    Stands threads [.key "a.b]\\[1", .index 1, .field ".x[y\\"] (int 7) ∧
    ∃ p, Path.ofSegments
        [.field "Threads", .selector "a.b]\\[1", .selector "1", .field ".x[y\\"] = .ok p ∧
      p.text = "Threads[a.b\\]\\\\[1][1].\\.x\\[y\\\\" ∧ Path.parse p.text = .ok p ∧
      threads.resolve p.rest = .ok (int 7) := by
  have hstands : Stands threads [.key "a.b]\\[1", .index 1, .field ".x[y\\"] (int 7) :=
    .under (.key (by decide) ⟨0, by decide⟩) <| .under (.index 1 (by decide)) <|
      .under (.field (by decide) ⟨0, by decide⟩ (by decide)) <| .here _
  obtain ⟨p, hp, hparse, -, -, hnode⟩ :=
    node_addressable (show "Threads" ≠ "" by decide) hstands
  have htext : p.text = "Threads[a.b\\]\\\\[1][1].\\.x\\[y\\\\" := by
    rw [Path.text, Path.ofSegments_eq_ok_iff.1 hp]
    decide +kernel
  exact ⟨hstands, p, hp, htext, hparse, hnode⟩

end Value

end AttributeGateway
