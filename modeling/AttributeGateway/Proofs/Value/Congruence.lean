import AttributeGateway.Path.Resolve
import AttributeGateway.Proofs.Value.Equality

/-!
# Equal values answer paths alike

A path cannot tell equal values apart. A step from one of two equal nodes finds the same key, the
same index or the same field as from the other, in whatever place it stands there, and what it finds
is equal again; or it finds nothing on either side, and the fault names the same kind, the same
length or the same member. This holds for values without platform objects: such an object is equal
to itself whatever it hands out, and that may hold a NaN.

* `Plain` — there is no platform object in the value.
* `Alike` — two walks end with equal values, or with the same fault.
* `select_alike`, `field_alike` — single steps from equal nodes.
* `resolve_alike`, `resolve_respects_eq` — whole walks.
-/

namespace AttributeGateway

namespace Value

/-- No platform object occurs in the value. -/
def Plain : Value → Prop
  | .null => True
  | .scalar _ => True
  | .keyed _ _ child => ∀ i, (child i).Plain
  | .sequence _ item => ∀ i, (item i).Plain
  | .foreign _ _ _ => False

instance decidablePlain : (v : Value) → Decidable v.Plain
  | .null => .isTrue trivial
  | .scalar _ => .isTrue trivial
  | .keyed _ _ child =>
    have := fun i => decidablePlain (child i)
    inferInstanceAs (Decidable (∀ i, (child i).Plain))
  | .sequence _ item =>
    have := fun i => decidablePlain (item i)
    inferInstanceAs (Decidable (∀ i, (item i).Plain))
  | .foreign _ _ _ => .isFalse id

/-- Two ends of a walk that cannot be told apart. -/
inductive Alike : Except Fault Value → Except Fault Value → Prop where
  /-- Both lead to values, and these are equal. -/
  | value {v w : Value} (h : Same v w) : Alike (.ok v) (.ok w)
  /-- Both have the same fault. -/
  | fault (f : Fault) : Alike (.error f) (.error f)

variable {v w : Value} {keys keys' : KeyList}

/-! ### Single steps -/

/-- A key is found in both of two lists of the same keys, or in neither. -/
theorem find?_cases (hkeys : ∀ k, k ∈ keys.names ↔ k ∈ keys'.names) (k : String) :
    (∃ i j, keys.find? k = some i ∧ keys'.find? k = some j ∧ keys.key i = keys'.key j) ∨
      keys.find? k = none ∧ keys'.find? k = none := by
  by_cases hk : k ∈ keys.names
  · obtain ⟨i, hi⟩ := KeyList.mem_names_iff.1 hk
    obtain ⟨j, hj⟩ := KeyList.mem_names_iff.1 ((hkeys k).1 hk)
    exact .inl ⟨i, j, KeyList.find?_eq_some_iff.2 hi, KeyList.find?_eq_some_iff.2 hj,
      hi.trans hj.symm⟩
  · have hk' : k ∉ keys'.names := fun h => hk ((hkeys k).2 h)
    exact .inr ⟨KeyList.find?_eq_none_iff.2 hk, KeyList.find?_eq_none_iff.2 hk'⟩

theorem kind_keyed {shape : Shape} (child : Fin keys.length → Value)
    (child' : Fin keys'.length → Value) :
    (Value.keyed shape keys child).kind = (Value.keyed shape keys' child').kind := by
  cases shape <;> rfl

theorem Same.isNull_eq (h : Same v w) : v.isNull = w.isNull := by
  cases h <;> rfl

/-- A selector finds equal nodes in equal nodes. -/
theorem select_alike (h : Same v w) (key : String) : Alike (v.select key) (w.select key) := by
  cases h with
  | null | leaf _ | float _ _ _ | foreign _ => exact .fault _
  | @keyed shape keys keys' child child' hkeys h =>
    by_cases hshape : shape = .record
    · subst hshape
      exact .fault _
    · rw [select_keyed hshape, select_keyed hshape]
      rcases find?_cases hkeys key with ⟨i, j, hi, hj, he⟩ | ⟨hi, hj⟩
      · rw [hi, hj]
        exact .value (h i j he)
      · rw [hi, hj]
        exact .value .null
  | @sequence n item item' h =>
    simp only [select]
    split
    · exact .fault _
    · next index _ =>
      by_cases hlt : index < n
      · simp only [hlt, dite_true]
        exact .value (h _)
      · simp only [hlt, dite_false]
        exact .fault _

/-- A field leads from equal nodes to equal nodes. -/
theorem field_alike (hp : Plain v) (h : Same v w) (name : String) :
    Alike (v.field name) (w.field name) := by
  cases h with
  | null | leaf _ | float _ _ _ | sequence _ => exact .fault _
  | @keyed shape keys keys' child child' hkeys h =>
    by_cases hshape : shape = .mapping
    · subst hshape
      exact .fault _
    · rw [field_keyed hshape, field_keyed hshape, kind_keyed child child']
      rcases find?_cases hkeys name with ⟨i, j, hi, hj, he⟩ | ⟨hi, hj⟩
      · rw [hi, hj]
        exact .value (h i j he)
      · rw [hi, hj]
        exact .fault _
  | foreign _ => exact hp.elim

theorem step_alike (hp : Plain v) (h : Same v w) (s : Segment) : Alike (v.step s) (w.step s) := by
  cases s with
  | selector key => exact select_alike h key
  | field name => exact field_alike hp h name

/-- A step does not come upon a platform object where there is none. -/
theorem Plain.step {s : Segment} (hp : Plain v) (hs : v.step s = .ok w) : Plain w := by
  cases s with
  | selector key =>
    cases v with
    | null | scalar _ => cases hs
    | keyed shape keys child =>
      by_cases hshape : shape = .record
      · subst hshape
        cases hs
      · rw [Value.step, select_keyed hshape] at hs
        cases hi : keys.find? key with
        | none =>
          rw [hi] at hs
          cases hs
          trivial
        | some i =>
          rw [hi] at hs
          cases hs
          exact hp i
    | sequence n item =>
      simp only [Value.step, select] at hs
      split at hs
      · cases hs
      · split at hs
        · cases hs
          exact hp _
        · cases hs
    | foreign _ _ _ => exact hp.elim
  | field name =>
    cases v with
    | null | scalar _ | sequence _ _ => cases hs
    | keyed shape keys child =>
      by_cases hshape : shape = .mapping
      · subst hshape
        cases hs
      · rw [Value.step, field_keyed hshape] at hs
        cases hi : keys.find? name with
        | none =>
          rw [hi] at hs
          cases hs
        | some i =>
          rw [hi] at hs
          cases hs
          exact hp i
    | foreign _ _ _ => exact hp.elim

/-! ### Walks -/

/-- **Walks from equal values end alike.** -/
theorem resolve_alike (hp : Plain v) (h : Same v w) (steps : List Segment) :
    Alike (v.resolve steps) (w.resolve steps) := by
  induction steps generalizing v w with
  | nil => exact .value h
  | cons s rest ih =>
    rw [resolve, resolve, ← h.isNull_eq]
    split
    · exact .value .null
    · have hstep := step_alike hp h s
      generalize hv : v.step s = r, w.step s = r' at hstep
      cases hstep with
      | value h' => exact ih (hp.step hv) h'
      | fault f => exact .fault f

/-- **A path does not tell equal values apart.** From two equal values without platform objects the
same steps lead to equal values, or fail with the same fault. -/
theorem resolve_respects_eq (hp : Plain v) (h : v.eq w = true) (steps : List Segment) :
    (∃ v' w', v.resolve steps = .ok v' ∧ w.resolve steps = .ok w' ∧ v'.eq w' = true) ∨
      ∃ f, v.resolve steps = .error f ∧ w.resolve steps = .error f := by
  have halike := resolve_alike hp (eq_iff_same.1 h) steps
  generalize v.resolve steps = r, w.resolve steps = r' at halike
  cases halike with
  | value h' => exact .inl ⟨_, _, rfl, rfl, eq_iff_same.2 h'⟩
  | fault f => exact .inr ⟨f, rfl, rfl⟩

/-- Objects whose entries stand in different orders at two levels. -/
theorem resolve_respects_eq_reordered :
    let usage := ofEntries .record [("used", float ⟨0⟩), ("max", int 9)]
    let usage' := ofEntries .record [("max", int 9), ("used", float ⟨0x8000000000000000⟩)]
    let first := ofEntries .object [("heap", usage), ("pools", null)]
    let second := ofEntries .object [("pools", null), ("heap", usage')]
    (Plain first ∧ first.eq second = true) ∧
      first.resolve [.selector "heap", .field "used"] = .ok (float ⟨0⟩) ∧
      ∃ w, second.resolve [.selector "heap", .field "used"] = .ok w ∧
        (float ⟨0⟩).eq w = true := by
  intro usage usage' first second
  have hfirst : Plain first := by decide
  have heq : first.eq second = true := by rfl
  have hused : first.resolve [.selector "heap", .field "used"] = .ok (float ⟨0⟩) := by rfl
  refine ⟨⟨hfirst, heq⟩, hused, ?_⟩
  rcases resolve_respects_eq hfirst heq [.selector "heap", .field "used"] with
    ⟨v', w', hv, hw, h⟩ | ⟨f, hf, -⟩
  · rw [hused] at hv
    cases hv
    exact ⟨w', hw, h⟩
  · rw [hused] at hf
    cases hf

end Value

end AttributeGateway
