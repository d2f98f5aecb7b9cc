import AttributeGateway.Proofs.Value.Payload
import Mathlib.Tactic.FinCases

/-!
# Values and documents, there and back

Values and documents do not tell the same things apart, so neither conversion undoes the other. What
is lost can be said exactly. A document that is turned into a value and back keeps everything but
the integers above the signed range, which come back as texts of their digits. A value that is
turned into a document and back keeps everything but what documents do not tell (`Value.asRead`),
and what is left of it is kept from then on.

On the way neither conversion confuses the two kinds of number: wherever an integer or a
floating-point number stands on one side, the same number of the same kind stands in the same place
on the other, or a text.

* `Json.narrowed` — a document without integers above the signed range.
* `Json.node?`, `Value.node?` — what stands in a place, by the positions that lead there.
* `Value.toJson_ofJson` — from a document and back; from a value and back it is `ofJson_toJson`.
* `Value.asRead_asRead` — what is left of a value is kept.
* `Value.node?_ofJson`, `Value.node?_toJson` — the conversions keep everything in its place;
  `node?_ofJson_eq_int_iff` and its like say so of numbers of either kind.
* `Value.there_and_back` — all of this together.
-/

namespace AttributeGateway

/-! ### Documents without large integers -/

namespace Json

/-- The document with something in the place of each number. -/
def mapNumbers (f : Number → Json) : Json → Json
  | .number n => f n
  | .array n item => .array n fun i => (item i).mapNumbers f
  | .object keys child => .object keys fun i => (child i).mapNumbers f
  | j => j

/-- A number, or the text of its digits if it is an integer above the signed range. -/
def Number.narrowed : Number → Json
  | .integer i h =>
    if i < 0x8000000000000000 then .number (.integer i h) else .string (Text.decimal i)
  | .real x h => .number (.real x h)

/-- The document with texts in the place of the integers above the signed range. -/
def narrowed (j : Json) : Json := j.mapNumbers Number.narrowed

/-- What stands in a place of a document: each position leads to an item or a child. -/
def node? (j : Json) : List Nat → Option Json
  | [] => some j
  | i :: rest =>
    match j with
    | .array n item => if h : i < n then (item ⟨i, h⟩).node? rest else none
    | .object keys child => if h : i < keys.length then (child ⟨i, h⟩).node? rest else none
    | _ => none
termination_by structural place => place

theorem Number.narrowed_narrowed (n : Number) : n.narrowed.narrowed = n.narrowed := by
  cases n with
  | integer i h =>
    by_cases hi : i < 0x8000000000000000 <;>
      simp [Number.narrowed, Json.narrowed, mapNumbers, hi]
  | real x h => rfl

theorem narrowed_narrowed (j : Json) : j.narrowed.narrowed = j.narrowed := by
  induction j with
  | null | bool _ | string _ => rfl
  | number n => exact n.narrowed_narrowed
  | array n item ih => exact congrArg (Json.array n) (funext ih)
  | object keys child ih => exact congrArg (Json.object keys) (funext ih)

end Json

/-! ### There and back -/

theorem Scalar.toJson_ofNumber (n : Json.Number) : (Scalar.ofNumber n).toJson = n.narrowed := by
  cases n with
  | integer i h =>
    by_cases hi : i < 0x8000000000000000
    · have hle : i ≤ 0x7FFFFFFFFFFFFFFF := Int.le_of_lt_add_one hi
      have hword : (Int64.ofInt i).toInt = i := Int64.toInt_ofInt_of_le h.1 hi
      simp only [Scalar.ofNumber, Json.Number.narrowed, if_pos hi, if_pos hle, Scalar.toJson, hword]
    · have hle : ¬ i ≤ 0x7FFFFFFFFFFFFFFF := fun hle => hi (Int.lt_add_one_of_le hle)
      simp only [Scalar.ofNumber, Json.Number.narrowed, if_neg hi, if_neg hle, Scalar.toJson]
  | real x h => exact dif_pos h

theorem Scalar.asRead_asRead (s : Scalar) : s.asRead.asRead = s.asRead := by
  cases s with
  | float x => by_cases hx : x.isFinite = true <;> simp [Scalar.asRead, hx]
  | bool _ | int _ | text _ => rfl

namespace Value

/-- **A document that becomes a value and a document again** has lost its large integers, and
nothing else. -/
theorem toJson_ofJson (j : Json) : (ofJson j).toJson = j.narrowed := by
  induction j with
  | null | bool _ | string _ => rfl
  | number n => exact Scalar.toJson_ofNumber n
  | array n item ih => exact congrArg (Json.array n) (funext ih)
  | object keys child ih => exact congrArg (Json.object keys) (funext ih)

/-- **What is left of a value** is kept when it becomes a document and a value again. -/
theorem asRead_asRead (v : Value) : v.asRead.asRead = v.asRead := by
  induction v with
  | null | foreign _ _ _ => rfl
  | scalar s => exact congrArg Value.scalar s.asRead_asRead
  | keyed shape keys child ih => exact congrArg (Value.keyed .object keys) (funext ih)
  | sequence n item ih => exact congrArg (Value.sequence n) (funext ih)

/-! ### Place by place -/

/-- What stands in a place of a value: each position leads to an item or a child. -/
def node? (v : Value) : List Nat → Option Value
  | [] => some v
  | i :: rest =>
    match v with
    | .keyed _ keys child => if h : i < keys.length then (child ⟨i, h⟩).node? rest else none
    | .sequence n item => if h : i < n then (item ⟨i, h⟩).node? rest else none
    | _ => none
termination_by structural place => place

variable {j : Json} {v : Value} {place : List Nat}

theorem node?_ofJson (j : Json) (place : List Nat) :
    (ofJson j).node? place = (j.node? place).map ofJson := by
  induction place generalizing j with
  | nil => rfl
  | cons i rest ih =>
    cases j with
    | null | bool _ | number _ | string _ => rfl
    | array n item =>
      simp only [ofJson, node?, Json.node?]
      split
      · exact ih _
      · rfl
    | object keys child =>
      simp only [ofJson, node?, Json.node?]
      split
      · exact ih _
      · rfl

theorem node?_toJson (v : Value) (place : List Nat) :
    v.toJson.node? place = (v.node? place).map toJson := by
  induction place generalizing v with
  | nil => rfl
  | cons i rest ih =>
    cases v with
    | null | foreign _ _ _ => rfl
    | scalar s =>
      cases s with
      | bool _ | int _ | text _ => rfl
      | float x => by_cases hx : x.isFinite = true <;> simp [toJson, Scalar.toJson, hx] <;> rfl
    | keyed shape keys child =>
      simp only [toJson, node?, Json.node?]
      split
      · exact ih _
      · rfl
    | sequence n item =>
      simp only [toJson, node?, Json.node?]
      split
      · exact ih _
      · rfl

/-- Only an integer becomes an integer. -/
theorem ofJson_eq_int_iff {i : Int64} :
    ofJson j = int i ↔ ∃ h, j = .number (.integer i.toInt h) := by
  constructor
  · intro h
    cases j with
    | null | bool _ | string _ | array _ _ | object _ _ => cases h
    | number n =>
      cases n with
      | real x hx => cases h
      | integer k hk =>
        rw [ofJson, Scalar.ofNumber] at h
        split at h
        · next hle =>
          obtain rfl : Int64.ofInt k = i := Scalar.int.inj (Value.scalar.inj h)
          have hword : (Int64.ofInt k).toInt = k :=
            Int64.toInt_ofInt_of_le hk.1 (Int.lt_add_one_of_le hle)
          exact ⟨by rwa [hword], by simp only [hword]⟩
        · cases h
  · rintro ⟨h, rfl⟩
    have hle : i.toInt ≤ 0x7FFFFFFFFFFFFFFF := Int.le_of_lt_add_one i.toInt_lt
    simp only [ofJson, Scalar.ofNumber, if_pos hle, Int64.ofInt_toInt]
    rfl

/-- Only a floating-point number becomes a floating-point number. -/
theorem ofJson_eq_float_iff {x : Double} :
    ofJson j = float x ↔ ∃ h, j = .number (.real x h) := by
  constructor
  · intro h
    cases j with
    | null | bool _ | string _ | array _ _ | object _ _ => cases h
    | number n =>
      cases n with
      | real y hy =>
        cases h
        exact ⟨hy, rfl⟩
      | integer k hk =>
        rw [ofJson, Scalar.ofNumber] at h
        split at h <;> cases h
  · rintro ⟨h, rfl⟩
    rfl

theorem toJson_eq_integer_iff {i : Int} {h : -0x8000000000000000 ≤ i ∧ i ≤ 0xFFFFFFFFFFFFFFFF} :
    v.toJson = .number (.integer i h) ↔ ∃ n : Int64, n.toInt = i ∧ v = int n := by
  constructor
  · intro hv
    cases v with
    | null | keyed _ _ _ | sequence _ _ | foreign _ _ _ => cases hv
    | scalar s =>
      cases s with
      | bool _ | text _ => cases hv
      | int n =>
        cases hv
        exact ⟨n, rfl, rfl⟩
      | float x =>
        rw [toJson, Scalar.toJson] at hv
        split at hv <;> cases hv
  · rintro ⟨n, rfl, rfl⟩
    rfl

theorem toJson_eq_real_iff {x : Double} {h : x.isFinite = true} :
    v.toJson = .number (.real x h) ↔ v = float x := by
  constructor
  · intro hv
    cases v with
    | null | keyed _ _ _ | sequence _ _ | foreign _ _ _ => cases hv
    | scalar s =>
      cases s with
      | bool _ | text _ | int _ => cases hv
      | float y =>
        rw [toJson, Scalar.toJson] at hv
        split at hv
        · cases hv
          rfl
        · cases hv
  · rintro rfl
    exact dif_pos h

/-- Integers stand where they stood in the document. -/
theorem node?_ofJson_eq_int_iff {i : Int64} :
    (ofJson j).node? place = some (int i) ↔
      ∃ h, j.node? place = some (.number (.integer i.toInt h)) := by
  rw [node?_ofJson, Option.map_eq_some_iff]
  constructor
  · rintro ⟨k, hk, hi⟩
    obtain ⟨h, rfl⟩ := ofJson_eq_int_iff.1 hi
    exact ⟨h, hk⟩
  · rintro ⟨h, hk⟩
    exact ⟨_, hk, ofJson_eq_int_iff.2 ⟨h, rfl⟩⟩

/-- And so do floating-point numbers. -/
theorem node?_ofJson_eq_float_iff {x : Double} :
    (ofJson j).node? place = some (float x) ↔ ∃ h, j.node? place = some (.number (.real x h)) := by
  rw [node?_ofJson, Option.map_eq_some_iff]
  constructor
  · rintro ⟨k, hk, hx⟩
    obtain ⟨h, rfl⟩ := ofJson_eq_float_iff.1 hx
    exact ⟨h, hk⟩
  · rintro ⟨h, hk⟩
    exact ⟨_, hk, ofJson_eq_float_iff.2 ⟨h, rfl⟩⟩

/-- Integers stand where they stood in the value. -/
theorem node?_toJson_eq_integer_iff {i : Int}
    {h : -0x8000000000000000 ≤ i ∧ i ≤ 0xFFFFFFFFFFFFFFFF} :
    v.toJson.node? place = some (.number (.integer i h)) ↔
      ∃ n : Int64, n.toInt = i ∧ v.node? place = some (int n) := by
  rw [node?_toJson, Option.map_eq_some_iff]
  constructor
  · rintro ⟨w, hw, hi⟩
    obtain ⟨n, hn, rfl⟩ := toJson_eq_integer_iff.1 hi
    exact ⟨n, hn, hw⟩
  · rintro ⟨n, hn, hw⟩
    exact ⟨_, hw, toJson_eq_integer_iff.2 ⟨n, hn, rfl⟩⟩

/-- And so do floating-point numbers, if they are finite. -/
theorem node?_toJson_eq_real_iff {x : Double} {h : x.isFinite = true} :
    v.toJson.node? place = some (.number (.real x h)) ↔ v.node? place = some (float x) := by
  rw [node?_toJson, Option.map_eq_some_iff]
  constructor
  · rintro ⟨w, hw, hx⟩
    obtain rfl := toJson_eq_real_iff.1 hx
    exact hw
  · intro hw
    exact ⟨_, hw, toJson_eq_real_iff.2 rfl⟩

/-- **From a document to a value and back**, the integers above the signed range become the texts of
their digits, and nothing else changes. **From a value to a document and back**, keyed data of
either shape becomes an object, and numbers that are not finite and platform objects become their
texts; what is left changes no more. On either way integers and floating-point numbers stay in their
places and are never taken for each other. -/
theorem there_and_back :
    (∀ j : Json, (ofJson j).toJson = j.narrowed ∧ j.narrowed.narrowed = j.narrowed) ∧
    (∀ v : Value, ofJson v.toJson = v.asRead ∧ v.asRead.asRead = v.asRead) ∧
    (∀ (j : Json) (place : List Nat),
      (∀ i, (ofJson j).node? place = some (int i) ↔
        ∃ h, j.node? place = some (.number (.integer i.toInt h))) ∧
      ∀ x, (ofJson j).node? place = some (float x) ↔
        ∃ h, j.node? place = some (.number (.real x h))) ∧
    ∀ (v : Value) (place : List Nat),
      (∀ i h, v.toJson.node? place = some (.number (.integer i h)) ↔
        ∃ n : Int64, n.toInt = i ∧ v.node? place = some (int n)) ∧
      ∀ x h, v.toJson.node? place = some (.number (.real x h)) ↔
        v.node? place = some (float x) := by
  refine ⟨fun j => ⟨toJson_ofJson j, j.narrowed_narrowed⟩,
    fun v => ⟨ofJson_toJson v, v.asRead_asRead⟩, fun j place => ⟨?_, ?_⟩, fun v place => ⟨?_, ?_⟩⟩
  · exact fun i => node?_ofJson_eq_int_iff
  · exact fun x => node?_ofJson_eq_float_iff
  · exact fun i h => node?_toJson_eq_integer_iff
  · exact fun x h => node?_toJson_eq_real_iff

/-- The least integer above the signed range becomes a text inside a document, and the one below it
stays as it is. -/
example : (Json.ofItems [.number (.integer 0x7FFFFFFFFFFFFFFF (by decide)),
      .number (.integer 0x8000000000000000 (by decide))]).narrowed =
    Json.ofItems [.number (.integer 0x7FFFFFFFFFFFFFFF (by decide)),
      .string "9223372036854775808"] := by
  refine congrArg (Json.array 2) (funext fun i => ?_)
  fin_cases i <;> rfl

end Value

end AttributeGateway
