import AttributeGateway.Gateway.Task
import AttributeGateway.Proofs.Request.Items
import AttributeGateway.Proofs.Text.Numerals

/-!
# Walking a path step by step

A walk ends in one of three ways: all its steps have been made, a step has led to `null`, or a step
could not be made from the node that had been reached. Which of them it is depends on the steps up
to the end of the walk only, so a walk can be divided anywhere: walking a list of steps is walking
the first part and then, from where that has led, the second one. A step that cannot be made costs
the item that asked for it and nothing else.

* `Walks` — the steps lead from a node to another one, and none of them is a step from `null`.
* `resolve_append` — a walk is divided.
* `resolve_eq_ok_iff`, `resolve_eq_error_iff` — how a walk ends.
* `Indexed`, `select_sequence_iff` — what a key is to a sequence.
* `resolve_step_by_step` — all of this together.
-/

namespace AttributeGateway

namespace Value

variable {u v w : Value} {s : Segment} {before behind steps : List Segment} {f : Fault}

/-! ### Walks -/

/-- The steps lead from the first node to the second. Each of them is made from a node that is not
`null`. -/
inductive Walks : Value → List Segment → Value → Prop where
  /-- Without a step the node stays where it is. -/
  | stay (v : Value) : Walks v [] v
  /-- A step to another node, and the steps from there. -/
  | onward {v w u : Value} {s : Segment} {rest : List Segment} (hv : v.isNull = false)
      (hs : v.step s = .ok w) (h : Walks w rest u) : Walks v (s :: rest) u

/-- The first step that cannot be made, and the fault with which it fails. -/
def Fails (v : Value) (steps : List Segment) (f : Fault) : Prop :=
  ∃ before s behind u, steps = before ++ s :: behind ∧ Walks v before u ∧ u.isNull = false ∧
    u.step s = .error f

theorem eq_null_of_isNull (h : v.isNull = true) : v = .null := by
  cases v <;> first | rfl | cases h

theorem resolve_null (steps : List Segment) : Value.null.resolve steps = .ok .null := by
  cases steps <;> rfl

theorem resolve_cons (hv : v.isNull = false) :
    v.resolve (s :: steps) = v.step s >>= fun w => w.resolve steps := by
  rw [resolve, hv, if_neg Bool.false_ne_true]
  cases v.step s <;> rfl

/-- **A walk is divided**: the second part begins where the first one has led. -/
theorem resolve_append (v : Value) (xs ys : List Segment) :
    v.resolve (xs ++ ys) = v.resolve xs >>= fun u => u.resolve ys := by
  induction xs generalizing v with
  | nil => rfl
  | cons s rest ih =>
    by_cases hv : v.isNull = true
    · rw [eq_null_of_isNull hv, resolve_null, resolve_null]
      exact (resolve_null ys).symm
    · rw [Bool.not_eq_true] at hv
      rw [List.cons_append, resolve_cons hv, resolve_cons hv]
      cases v.step s with
      | error f => rfl
      | ok w => exact ih w

theorem Walks.resolve_eq (h : Walks v steps u) : v.resolve steps = .ok u := by
  induction h with
  | stay v => rfl
  | onward hv hs h ih =>
    rw [resolve_cons hv, hs]
    exact ih

theorem Walks.resolve_append (h : Walks v before u) (behind : List Segment) :
    v.resolve (before ++ behind) = u.resolve behind := by
  rw [Value.resolve_append, h.resolve_eq]
  rfl

/-! ### How a walk ends -/

/-- A walk that has been made in full, one that has ended at `null`, or one with a step that cannot
be made. -/
theorem walks_or_null_or_fails (v : Value) (steps : List Segment) :
    (∃ u, Walks v steps u) ∨ (∃ before behind, steps = before ++ behind ∧ Walks v before .null) ∨
      ∃ f, Fails v steps f := by
  induction steps generalizing v with
  | nil => exact .inl ⟨v, .stay v⟩
  | cons s rest ih =>
    by_cases hv : v.isNull = true
    · obtain rfl := eq_null_of_isNull hv
      exact .inr (.inl ⟨[], s :: rest, rfl, .stay .null⟩)
    · rw [Bool.not_eq_true] at hv
      cases hs : v.step s with
      | error f => exact .inr (.inr ⟨f, [], s, rest, v, rfl, .stay v, hv, hs⟩)
      | ok w =>
        rcases ih w with ⟨u, h⟩ | ⟨before, behind, rfl, h⟩ | ⟨f, before, t, behind, u, rfl, h, hf⟩
        · exact .inl ⟨u, .onward hv hs h⟩
        · exact .inr (.inl ⟨s :: before, behind, rfl, .onward hv hs h⟩)
        · exact .inr (.inr ⟨f, s :: before, t, behind, u, rfl, .onward hv hs h, hf⟩)

/-- A walk has the fault of the first step that cannot be made. -/
theorem Fails.resolve_eq (h : Fails v steps f) : v.resolve steps = .error f := by
  obtain ⟨before, s, behind, u, rfl, h, hu, hs⟩ := h
  rw [h.resolve_append, resolve_cons hu, hs]
  rfl

/-- **A walk leads to a node** if all its steps lead there, or to `null` if some of them do. -/
theorem resolve_eq_ok_iff : v.resolve steps = .ok u ↔
    Walks v steps u ∨
      u = .null ∧ ∃ before behind, steps = before ++ behind ∧ Walks v before .null := by
  constructor
  · intro h
    rcases walks_or_null_or_fails v steps with ⟨w, hw⟩ | ⟨before, behind, rfl, hn⟩ | ⟨f, hf⟩
    · rw [hw.resolve_eq] at h
      cases h
      exact .inl hw
    · rw [hn.resolve_append, resolve_null] at h
      cases h
      exact .inr ⟨rfl, before, behind, rfl, hn⟩
    · rw [hf.resolve_eq] at h
      cases h
  · rintro (h | ⟨rfl, before, behind, rfl, h⟩)
    · exact h.resolve_eq
    · rw [h.resolve_append, resolve_null]

/-- **A walk has a fault** if a step cannot be made from a node that is not `null`. -/
theorem resolve_eq_error_iff : v.resolve steps = .error f ↔ Fails v steps f := by
  constructor
  · intro h
    rcases walks_or_null_or_fails v steps with ⟨w, hw⟩ | ⟨before, behind, rfl, hn⟩ | ⟨f', hf⟩
    · rw [hw.resolve_eq] at h
      cases h
    · rw [hn.resolve_append, resolve_null] at h
      cases h
    · rw [hf.resolve_eq] at h
      cases h
      exact hf
  · exact Fails.resolve_eq

/-! ### Steps into a sequence -/

section Sequence

variable {n : Nat} {item : Fin n → Value} {key : String}

/-- What a key leads to in a sequence. -/
inductive Indexed (n : Nat) (item : Fin n → Value) (key : String) : Except Fault Value → Prop where
  /-- The item whose index the key denotes. -/
  | item {i : Nat} (h : Text.Denotes key i) (hword : i ≤ Text.maxWord64) (hi : i < n) :
    Indexed n item key (.ok (item ⟨i, hi⟩))
  /-- There is no item with that index. -/
  | outOfRange {i : Nat} (h : Text.Denotes key i) (hword : i ≤ Text.maxWord64) (hi : n ≤ i) :
    Indexed n item key (.error (.indexOutOfRange i n))
  /-- The key denotes no number, or one that a machine word does not hold. -/
  | noIndex (h : ∀ i, Text.Denotes key i → Text.maxWord64 < i) :
    Indexed n item key (.error (.invalidIndex key))

theorem indexed_select (n : Nat) (item : Fin n → Value) (key : String) :
    Indexed n item key ((Value.sequence n item).select key) := by
  rw [select]
  split
  · next e hread =>
    refine .noIndex fun i h => ?_
    by_contra hle
    rw [Text.readNat_eq_ok_iff.2 ⟨h, Nat.le_of_not_lt hle⟩] at hread
    cases hread
  · next i hread =>
    obtain ⟨h, hword⟩ := Text.readNat_eq_ok_iff.1 hread
    split
    · next hi => exact .item h hword hi
    · next hi => exact .outOfRange h hword (Nat.le_of_not_lt hi)

theorem Indexed.select_eq {r : Except Fault Value} (h : Indexed n item key r) :
    (Value.sequence n item).select key = r := by
  cases h with
  | @item i h hword hi =>
    have hread : Text.readNat Text.maxWord64 key = .ok i := Text.readNat_eq_ok_iff.2 ⟨h, hword⟩
    simp only [select, hread, hi, dite_true]
  | @outOfRange i h hword hi =>
    have hread : Text.readNat Text.maxWord64 key = .ok i := Text.readNat_eq_ok_iff.2 ⟨h, hword⟩
    simp only [select, hread, Nat.not_lt.2 hi, dite_false]
  | noIndex h =>
    cases hread : Text.readNat Text.maxWord64 key with
    | error e => simp only [select, hread]
    | ok i =>
      obtain ⟨hi, hword⟩ := Text.readNat_eq_ok_iff.1 hread
      exact absurd hword (Nat.not_le.2 (h i hi))

/-- **A selector takes from a sequence** the item whose index it denotes, and fails otherwise. -/
theorem select_sequence_iff {r : Except Fault Value} :
    (Value.sequence n item).select key = r ↔ Indexed n item key r := by
  constructor
  · rintro rfl
    exact indexed_select n item key
  · exact Indexed.select_eq

end Sequence

/-! ### The walk as a whole -/

/-- A fault of a walk gives the item the sentinel, and the request goes on. -/
theorem settle_of_resolve {ρ τ σ : Type} [Remote ρ τ σ] (hf : v.resolve steps = .error f)
    (h : HolderId) (r : Reading) (g : Gateway ρ σ) :
    (Activity.settle h r (v.resolve steps) g : Gateway ρ σ × Activity τ σ) =
      Activity.proceed h r.get (r.lines ++ [notAvailable]) r.rest.tail g.countUnavailable := by
  rw [hf, Activity.settle, itemLevel_of_resolve hf, if_pos rfl]

/-- **A path is walked step by step.** A walk may be divided anywhere. It leads where all its steps
lead, or to `null` if any of them do, whatever comes behind; or it has the fault of the first step
that cannot be made from a node other than `null`, whatever comes behind. Every such fault concerns
the item alone: the request goes on with the next one. A step into a sequence is made by the texts
that denote the index of an item. -/
theorem resolve_step_by_step (v : Value) :
    (∀ xs ys, v.resolve (xs ++ ys) = v.resolve xs >>= fun u => u.resolve ys) ∧
    (∀ xs u, v.resolve xs = .ok u ↔ Walks v xs u ∨
      u = .null ∧ ∃ before behind, xs = before ++ behind ∧ Walks v before .null) ∧
    (∀ xs ys, v.resolve xs = .ok .null → v.resolve (xs ++ ys) = .ok .null) ∧
    (∀ xs f, v.resolve xs = .error f ↔ Fails v xs f) ∧
    (∀ xs f, v.resolve xs = .error f →
      (∀ ys, v.resolve (xs ++ ys) = .error f) ∧ f.itemLevel = true ∧
      ∀ {ρ τ σ : Type} [Remote ρ τ σ] (h : HolderId) (r : Reading) (g : Gateway ρ σ),
        (Activity.settle h r (v.resolve xs) g : Gateway ρ σ × Activity τ σ) =
          Activity.proceed h r.get (r.lines ++ [notAvailable]) r.rest.tail g.countUnavailable) ∧
    ∀ n item key r, v = .sequence n item →
      (v.step (.selector key) = r ↔ Indexed n item key r) := by
  refine ⟨resolve_append v, fun xs u => resolve_eq_ok_iff, fun xs ys h => ?_,
    fun xs f => resolve_eq_error_iff, fun xs f hf => ⟨fun ys => ?_, ?_, settle_of_resolve hf⟩, ?_⟩
  · rw [resolve_append, h]
    exact resolve_null ys
  · rw [resolve_append, hf]
    rfl
  · exact itemLevel_of_resolve hf
  · rintro n item key r rfl
    exact select_sequence_iff

/-- A mapping with a sequence under a key that has a point in it. -/
def nestedValue : Value := ofEntries .mapping [("a.b", ofItems [int 7, null])]

/-- A walk that meets `null` before its end, one with an index that is too great, and an index with
a sign and a zero in front. -/
theorem resolve_step_by_step_nested :
    (nestedValue.resolve [.selector "a.b", .selector "1"] = .ok .null ∧
      nestedValue.resolve ([.selector "a.b", .selector "1"] ++ [.field "x", .selector "-"]) =
        .ok .null) ∧
    (nestedValue.resolve [.selector "a.b", .selector "+2"] = .error (.indexOutOfRange 2 2) ∧
      nestedValue.resolve ([.selector "a.b", .selector "+2"] ++ [.field "x"]) =
        .error (.indexOutOfRange 2 2) ∧
      (Fault.indexOutOfRange 2 2).itemLevel = true) ∧
    (ofItems [int 7, null] = .sequence 2 [int 7, null].get ∧
      Indexed 2 [int 7, null].get "+01" (.ok .null)) := by
  have hnull : nestedValue.resolve [.selector "a.b", .selector "1"] = .ok .null := by rfl
  have hrange : nestedValue.resolve [.selector "a.b", .selector "+2"] =
    .error (.indexOutOfRange 2 2) := by rfl
  obtain ⟨-, -, hshort, -, hfault, -⟩ := resolve_step_by_step nestedValue
  obtain ⟨hbehind, hitem, -⟩ := hfault _ _ hrange
  obtain ⟨-, -, -, -, -, hsequence⟩ := resolve_step_by_step (ofItems [int 7, null])
  exact ⟨⟨hnull, hshort _ _ hnull⟩, ⟨hrange, hbehind _, hitem⟩, rfl,
    (hsequence 2 _ "+01" _ rfl).1 rfl⟩

end Value

end AttributeGateway
