import AttributeGateway.Gateway.Task
import AttributeGateway.Proofs.Json.Reading
import AttributeGateway.Value.Json

/-!
# Composite values on a line

A composite value is written as one line of JSON. That line goes into an answer as it is, and a
client that reads it as JSON finds the value again, as far as the texts of its floating-point
numbers read back, but for what JSON does not tell: whether keyed data is a record or a mapping,
numbers that are not finite, and what a platform object is beyond its text.

* `Value.asRead` — what is left of a value that is written and read.
* `Value.AllFloats` — a property of all floating-point numbers inside a value.
* `Value.ofJson_toJson` — the document of a value stands for that.
* `Value.payload_reads_back` — so does the line that is written for the value.
-/

namespace AttributeGateway

/-! ### What is read -/

/-- What is left of a leaf: a number that is not finite becomes a text. -/
def Scalar.asRead : Scalar → Scalar
  | .float x => if x.isFinite then .float x else .text x.text
  | s => s

namespace Value

/-- What is left of a value: keyed data of either shape becomes an object, platform objects become
their text. -/
def asRead : Value → Value
  | .null => .null
  | .scalar s => .scalar s.asRead
  | .keyed _ keys child => .keyed .object keys fun i => (child i).asRead
  | .sequence n item => .sequence n fun i => (item i).asRead
  | .foreign face _ _ => text face.text

theorem ofJson_scalar (s : Scalar) : ofJson s.toJson = .scalar s.asRead := by
  cases s with
  | bool b => rfl
  | int i =>
    have hlt := i.toInt_lt
    simp only [Scalar.toJson, ofJson, Scalar.ofNumber, Scalar.asRead, Int64.ofInt_toInt]
    rw [if_pos (by omega)]
  | float x =>
    by_cases hf : x.isFinite = true
    · simp only [Scalar.toJson, Scalar.asRead, hf, dite_true, if_true]
      rfl
    · simp only [Scalar.toJson, Scalar.asRead, hf]
      rfl
  | text s => rfl

/-- **The document of a value stands for what is left of it.** -/
theorem ofJson_toJson (v : Value) : ofJson v.toJson = v.asRead := by
  induction v with
  | null => rfl
  | scalar s => exact ofJson_scalar s
  | keyed shape keys child ih => exact congrArg (Value.keyed .object keys) (funext ih)
  | sequence n item ih => exact congrArg (Value.sequence n) (funext ih)
  | foreign face returned held => rfl

/-! ### Composite values -/

/-- Whether the value is keyed data or a sequence. -/
def isComposite : Value → Bool
  | .keyed _ _ _ => true
  | .sequence _ _ => true
  | _ => false

/-- How deeply keyed data and sequences are nested. -/
def depth : Value → Nat
  | .keyed _ _ child => (Finset.univ.sup fun i => (child i).depth) + 1
  | .sequence _ item => (Finset.univ.sup fun i => (item i).depth) + 1
  | _ => 0

theorem depth_toJson (v : Value) : v.toJson.depth = v.depth := by
  induction v with
  | null => rfl
  | scalar s =>
    cases s with
    | bool b => rfl
    | int i => rfl
    | float x =>
      rw [toJson, Scalar.toJson]
      split <;> rfl
    | text s => rfl
  | keyed shape keys child ih => simp only [toJson, Json.depth, depth, ih]
  | sequence n item ih => simp only [toJson, Json.depth, depth, ih]
  | foreign face returned held => rfl

theorem render_of_isComposite {v : Value} (h : v.isComposite = true) :
    v.render = v.toJson.print := by
  cases v <;> first | rfl | cases h

theorem pieces_text : (Template.ofToken "%s").pieces = [.text] := by decide

/-- The line that is written for a composite value is its document. -/
theorem line_of_isComposite {v : Value} (h : v.isComposite = true) :
    (Template.ofToken "%s").line v = some v.toJson.print := by
  have hnull : v.isNull = false := by
    cases v <;> first | rfl | cases h
  rw [Template.line, hnull, if_neg Bool.false_ne_true, render_of_isComposite h, Template.fill,
    Template.hasPlaceholders, pieces_text]
  simp [Template.fillPiece, Piece.isPlaceholder]

/-! ### Numbers inside -/

/-- All floating-point numbers of the value have the property. -/
def AllFloats (p : Double → Prop) : Value → Prop
  | .scalar (.float x) => p x
  | .keyed _ _ child => ∀ i, (child i).AllFloats p
  | .sequence _ item => ∀ i, (item i).AllFloats p
  | _ => True

instance decidableAllFloats (p : Double → Prop) [DecidablePred p] :
    (v : Value) → Decidable (v.AllFloats p)
  | .null => .isTrue trivial
  | .scalar (.bool _) => .isTrue trivial
  | .scalar (.int _) => .isTrue trivial
  | .scalar (.float x) => inferInstanceAs (Decidable (p x))
  | .scalar (.text _) => .isTrue trivial
  | .keyed _ _ child =>
    have := fun i => decidableAllFloats p (child i)
    inferInstanceAs (Decidable (∀ i, (child i).AllFloats p))
  | .sequence _ item =>
    have := fun i => decidableAllFloats p (item i)
    inferInstanceAs (Decidable (∀ i, (item i).AllFloats p))
  | .foreign _ _ _ => .isTrue trivial

theorem AllFloats.mono {p q : Double → Prop} {v : Value} (hpq : ∀ x, p x → q x)
    (h : v.AllFloats p) : v.AllFloats q := by
  induction v with
  | scalar s =>
    cases s with
    | float x => exact hpq x h
    | _ => exact trivial
  | keyed shape keys child ih => exact fun i => ih i (h i)
  | sequence n item ih => exact fun i => ih i (h i)
  | _ => exact trivial

theorem numbersReadBack_toJson {v : Value} (h : v.AllFloats Json.FloatReadsBack) :
    v.toJson.NumbersReadBack := by
  induction v with
  | null => exact trivial
  | scalar s =>
    cases s with
    | bool b => exact trivial
    | int i => exact Json.Number.readsBack_integer _
    | float x =>
      rw [toJson, Scalar.toJson]
      split
      · next hf => exact h hf
      · exact trivial
    | text s => exact trivial
  | keyed shape keys child ih => exact fun i => ih i (h i)
  | sequence n item ih => exact fun i => ih i (h i)
  | foreign face returned held => exact trivial

/-- The numbers of a value are read from their texts if they are zero or have short decimals. -/
theorem floatReadsBack_of_short {v : Value}
    (h : v.AllFloats fun x => x.isFinite = true → x.isZero = false →
      Json.Short (x.shortest NumberLayout.json.tie)) : v.AllFloats Json.FloatReadsBack :=
  h.mono fun _ hshort hf => Json.Number.readsBack_real hf (hshort hf)

/-- **A composite value is written as one line that reads back.** In an answer the line stands as
it is, among whatever other lines; and reading it gives what is left of the value, if the texts of
its floating-point numbers read back. -/
theorem payload_reads_back {v : Value} (hv : v.isComposite = true)
    (hdepth : v.depth ≤ Json.maxDepth) (hfloats : v.AllFloats Json.FloatReadsBack) :
    ∃ line, (Template.ofToken "%s").line v = some line ∧
      (∀ c ∈ line.toList, Text.breaksLine c = false) ∧ Text.singleLine line = line ∧
      (∀ before behind, (Response.ok (before ++ line :: behind)).lines =
        (Response.ok before).lines ++ line :: behind.map Text.singleLine) ∧
      ∃ document, Json.parse? line = some document ∧ ofJson document = v.asRead := by
  have hunbroken : Json.Unbroken v.toJson.print.toList := by
    rw [Json.print, String.toList_ofList]
    exact v.toJson.unbroken_text
  have hsingle := Json.singleLine_of_unbroken hunbroken
  refine ⟨v.toJson.print, line_of_isComposite hv, hunbroken, hsingle, fun before behind => ?_,
    v.toJson, Json.parse?_print (numbersReadBack_toJson hfloats) ?_, v.ofJson_toJson⟩
  · rw [Response.lines, Response.lines, List.map_append, List.map_cons, hsingle]
    rfl
  · rw [depth_toJson]
    exact hdepth

/-- Keyed data of two shapes, keys and texts that have to be escaped, the least integer, numbers
with and without a fraction, one that is not finite, and a platform object. -/
def mixedValue : Value :=
  ofEntries .record
    [("a \"b\"\n\x01", ofItems [null, bool true, int (-9223372036854775808), ofItems []]),
      ("", ofEntries .mapping [("\\", float ⟨0x3FB999999999999A⟩),
        ("nan", float ⟨0x7FF8000000000000⟩), ("-0", float ⟨0x8000000000000000⟩)]),
      ("\u00E9", ofObject 0 "Runtime" "two\r\nlines" [("getUsed", int 1)] [])]

/-- The line that is written for it. -/
def mixedLine : String :=
  "\x7b\"a \\\"b\\\"\\n\\u0001\":[null,true,-9223372036854775808,[]]," ++
    "\"\":\x7b\"\\\\\":0.1,\"nan\":\"NaN\",\"-0\":-0.0\x7d," ++
    "\"\u00E9\":\"two\\r\\nlines\"\x7d"

theorem payload_reads_back_mixed :
    mixedValue.isComposite = true ∧ mixedValue.depth ≤ Json.maxDepth ∧
      mixedValue.AllFloats Json.FloatReadsBack ∧
      (Template.ofToken "%s").line mixedValue = some mixedLine ∧
      Text.singleLine mixedLine = mixedLine ∧
      ∃ document, Json.parse? mixedLine = some document ∧
        ofJson document = mixedValue.asRead := by
  have hv : mixedValue.isComposite = true := rfl
  have hdepth : mixedValue.depth ≤ Json.maxDepth := by decide
  have hwritten : (Template.ofToken "%s").line mixedValue = some mixedLine := by decide +kernel
  have hfloats : mixedValue.AllFloats Json.FloatReadsBack :=
    floatReadsBack_of_short (by decide +kernel)
  obtain ⟨line, hline, -, hsingle, -, hread⟩ := payload_reads_back hv hdepth hfloats
  obtain rfl : line = mixedLine := Option.some.inj (hline.symm.trans hwritten)
  exact ⟨hv, hdepth, hfloats, hwritten, hsingle, hread⟩

end Value

end AttributeGateway
