import AttributeGateway.Value.Equality
import Mathlib.Data.List.Perm.Subperm

/-!
# What equality of values is

Two keyed nodes are compared by looking up the keys of the first in the second. That seems to
favour the second, which may have keys of its own; but the keys of a node are distinct and there are
equally many of them on both sides, so no key is left over. Equality therefore says the same of both
sides: they have the same keys, in whatever order, and under each key the same. This is a relation
that can be turned round and chained. It does not hold between every value and itself, because a NaN
differs from every number; the values with a NaN somewhere in them are all that stand out.

* `Same` — the relation, said without the comparison: no order, no sides.
* `HasNaN` — a NaN occurs in the value, at any depth but not inside a platform object.
* `eq_keyed_iff` — what the comparison of keyed nodes comes to: no key is left over.
* `eq_iff_same` — the comparison decides the relation.
* `Same.symm`, `Same.trans`, `same_self_iff` — it can be turned round and chained, and it holds
  between a value and itself if there is no NaN.
* `eq_partial_equivalence` — all of this of the comparison.
-/

namespace AttributeGateway

/-! ### Keys -/

namespace KeyList

variable {keys keys' : KeyList}

/-- Distinct keys that are found among equally many leave none of these out. -/
theorem mem_names_iff_of_length_eq (hsub : keys.names ⊆ keys'.names)
    (hlength : keys.length = keys'.length) (k : String) : k ∈ keys.names ↔ k ∈ keys'.names := by
  have hperm : keys.names.Perm keys'.names :=
    (List.subperm_of_subset keys.nodup hsub).perm_of_length_le (Nat.le_of_eq hlength.symm)
  exact hperm.mem_iff

/-- Distinct keys are equally many if they are the same. -/
theorem length_eq_of_mem_names_iff (h : ∀ k, k ∈ keys.names ↔ k ∈ keys'.names) :
    keys.length = keys'.length :=
  ((List.perm_ext_iff_of_nodup keys.nodup keys'.nodup).2 fun k => h k).length_eq

end KeyList

namespace Value

/-! ### The relation -/

/-- Two values that agree node by node, keyed nodes without regard to the order of their entries. -/
inductive Same : Value → Value → Prop where
  /-- No value is no value. -/
  | null : Same .null .null
  /-- Leaves other than floating-point numbers agree if they are the same. -/
  | leaf {s : Scalar} (h : ∀ x, s ≠ .float x) : Same (.scalar s) (.scalar s)
  /-- Of two such numbers neither is a NaN, and they are the same or two zeros. -/
  | float {x y : Double} (hx : x.isNaN = false) (hy : y.isNaN = false)
      (h : x = y ∨ x.isZero = true ∧ y.isZero = true) :
    Same (.scalar (.float x)) (.scalar (.float y))
  /-- Keyed nodes of one shape have the same keys, and agree under each of them. -/
  | keyed {shape : Shape} {keys keys' : KeyList} {child : Fin keys.length → Value}
      {child' : Fin keys'.length → Value} (hkeys : ∀ k, k ∈ keys.names ↔ k ∈ keys'.names)
      (h : ∀ i j, keys.key i = keys'.key j → Same (child i) (child' j)) :
    Same (.keyed shape keys child) (.keyed shape keys' child')
  /-- Sequences of one length agree item by item. -/
  | sequence {n : Nat} {item item' : Fin n → Value} (h : ∀ i, Same (item i) (item' i)) :
    Same (.sequence n item) (.sequence n item')
  /-- Platform objects are one object. -/
  | foreign {face face' : Face} {returned : Fin face.accessors.length → Value}
      {held : Fin face.members.length → Value} {returned' : Fin face'.accessors.length → Value}
      {held' : Fin face'.members.length → Value} (h : face.identity = face'.identity) :
    Same (.foreign face returned held) (.foreign face' returned' held')

/-- A NaN occurs in the value. What a platform object hands out is not part of it. -/
inductive HasNaN : Value → Prop where
  /-- The value is one. -/
  | here {x : Double} (h : x.isNaN = true) : HasNaN (.scalar (.float x))
  /-- It occurs under a key. -/
  | entry {shape : Shape} {keys : KeyList} {child : Fin keys.length → Value} (i : Fin keys.length)
      (h : HasNaN (child i)) : HasNaN (.keyed shape keys child)
  /-- It occurs in an item. -/
  | item {n : Nat} {item : Fin n → Value} (i : Fin n) (h : HasNaN (item i)) :
    HasNaN (.sequence n item)

variable {u v w : Value} {s t : Scalar} {shape shape' : Shape} {keys keys' : KeyList}
  {child : Fin keys.length → Value} {child' : Fin keys'.length → Value}

/-- **The relation can be turned round.** -/
theorem Same.symm (h : Same v w) : Same w v := by
  induction h with
  | null => exact .null
  | leaf h => exact .leaf h
  | float hx hy h =>
    refine .float hy hx ?_
    rcases h with rfl | ⟨hx, hy⟩
    · exact .inl rfl
    · exact .inr ⟨hy, hx⟩
  | keyed hkeys _ ih => exact .keyed (fun k => (hkeys k).symm) fun j i he => ih i j he.symm
  | sequence _ ih => exact .sequence ih
  | foreign h => exact .foreign h.symm

/-- **The relation can be chained.** -/
theorem Same.trans (h : Same u v) (h' : Same v w) : Same u w := by
  induction h generalizing w with
  | null => exact h'
  | leaf _ => exact h'
  | float hx _ h =>
    cases h' with
    | leaf hs => exact absurd rfl (hs _)
    | float _ hz h' =>
      refine .float hx hz ?_
      rcases h with rfl | ⟨hx, hy⟩
      · exact h'
      · rcases h' with rfl | ⟨_, hz⟩
        · exact .inr ⟨hx, hy⟩
        · exact .inr ⟨hx, hz⟩
  | @keyed shape keys keys' child child' hkeys _ ih =>
    cases h' with
    | keyed hkeys' h' =>
      refine .keyed (fun k => (hkeys k).trans (hkeys' k)) fun i j he => ?_
      -- The key stands in the middle too.
      obtain ⟨m, hm⟩ := KeyList.mem_names_iff.1 ((hkeys (keys.key i)).1 (KeyList.key_mem i))
      exact ih i m hm.symm (h' m j (hm.trans he))
  | sequence _ ih =>
    cases h' with
    | sequence h' => exact .sequence fun i => ih i (h' i)
  | foreign h =>
    cases h' with
    | foreign h' => exact .foreign (h.trans h')

/-- **The relation holds between a value and itself** if there is no NaN in it. -/
theorem same_self_iff (v : Value) : Same v v ↔ ¬ HasNaN v := by
  induction v with
  | null => exact iff_of_true .null nofun
  | scalar s =>
    constructor
    · intro h hn
      cases hn with
      | here hx =>
        cases h with
        | leaf hs => exact hs _ rfl
        | float hx' _ _ => exact absurd hx (by simp [hx'])
    · intro hn
      cases s with
      | float x =>
        have hx : x.isNaN = false := Bool.not_eq_true _ ▸ fun hx => hn (.here hx)
        exact .float hx hx (.inl rfl)
      | bool _ | int _ | text _ => exact .leaf nofun
  | keyed shape keys child ih =>
    constructor
    · intro h hn
      cases hn with
      | entry i hi =>
        cases h with
        | keyed _ h => exact (ih i).1 (h i i rfl) hi
    · intro hn
      refine .keyed (fun k => Iff.rfl) fun i j he => ?_
      obtain rfl := KeyList.key_injective he
      exact (ih i).2 fun hi => hn (.entry i hi)
  | sequence n item ih =>
    constructor
    · intro h hn
      cases hn with
      | item i hi =>
        cases h with
        | sequence h => exact (ih i).1 (h i) hi
    · intro hn
      exact .sequence fun i => (ih i).2 fun hi => hn (.item i hi)
  | foreign face returned held => exact iff_of_true (.foreign rfl) nofun

/-! ### The comparison decides the relation -/

theorem eq_scalar_iff : s.eq t = true ↔ Same (.scalar s) (.scalar t) := by
  constructor
  · intro h
    cases s with
    | float x =>
      cases t with
      | float y =>
        obtain ⟨hx, hy, h⟩ := Double.eq_iff.1 h
        exact .float hx hy h
      | bool _ | int _ | text _ => cases h
    | bool _ | int _ | text _ =>
      obtain rfl : _ = t := by simpa [Scalar.eq] using h
      exact .leaf nofun
  · intro h
    cases h with
    | leaf hs =>
      cases s with
      | float x => exact absurd rfl (hs x)
      | bool _ | int _ | text _ => simp [Scalar.eq]
    | float hx hy h => exact Double.eq_iff.2 ⟨hx, hy, h⟩

/-- What the comparison of keyed nodes looks at: as many keys, and each entry of the first among
those of the second. -/
theorem eq_keyed_iff_entries :
    (Value.keyed shape keys child).eq (.keyed shape' keys' child') = true ↔
      shape = shape' ∧ keys.length = keys'.length ∧
        ∀ i, ∃ j, keys'.key j = keys.key i ∧ (child i).eq (child' j) = true := by
  simp only [Value.eq, Bool.and_eq_true, beq_iff_eq, List.all_eq_true, List.mem_finRange,
    true_implies, and_assoc]
  refine and_congr_right fun _ => and_congr_right fun _ => forall_congr' fun i => ?_
  cases hj : keys'.find? (keys.key i) with
  | none =>
    rw [KeyList.find?_eq_none_iff, KeyList.mem_names_iff] at hj
    simp only [Bool.false_eq_true, false_iff]
    rintro ⟨j, hkey, -⟩
    exact hj ⟨j, hkey⟩
  | some j =>
    have hkey := KeyList.find?_eq_some_iff.1 hj
    constructor
    · intro h
      exact ⟨j, hkey, h⟩
    · rintro ⟨m, hm, h⟩
      obtain rfl := KeyList.key_injective (hm.trans hkey.symm)
      exact h

/-- **No key is left over**: keyed nodes are equal if they have the same keys, and equal children
under each of them. -/
theorem eq_keyed_iff :
    (Value.keyed shape keys child).eq (.keyed shape' keys' child') = true ↔
      shape = shape' ∧ (∀ k, k ∈ keys.names ↔ k ∈ keys'.names) ∧
        ∀ i j, keys.key i = keys'.key j → (child i).eq (child' j) = true := by
  rw [eq_keyed_iff_entries]
  refine and_congr_right fun _ => ⟨?_, ?_⟩
  · rintro ⟨hlength, h⟩
    have hsub : keys.names ⊆ keys'.names := by
      intro k hk
      obtain ⟨i, rfl⟩ := KeyList.mem_names_iff.1 hk
      obtain ⟨j, hj, -⟩ := h i
      exact KeyList.mem_names_iff.2 ⟨j, hj⟩
    refine ⟨KeyList.mem_names_iff_of_length_eq hsub hlength, fun i j he => ?_⟩
    obtain ⟨m, hm, hi⟩ := h i
    obtain rfl := KeyList.key_injective (hm.trans he)
    exact hi
  · rintro ⟨hkeys, h⟩
    refine ⟨KeyList.length_eq_of_mem_names_iff hkeys, fun i => ?_⟩
    obtain ⟨j, hj⟩ := KeyList.mem_names_iff.1 ((hkeys (keys.key i)).1 (KeyList.key_mem i))
    exact ⟨j, hj, h i j hj.symm⟩

theorem eq_sequence_iff {n n' : Nat} {item : Fin n → Value} {item' : Fin n' → Value} :
    (Value.sequence n item).eq (.sequence n' item') = true ↔
      ∃ h : n = n', ∀ i, (item i).eq (item' (i.cast h)) = true := by
  by_cases hn : n = n' <;> simp [Value.eq, hn]

/-- **The comparison decides the relation.** -/
theorem eq_iff_same : v.eq w = true ↔ Same v w := by
  induction v generalizing w with
  | null =>
    cases w with
    | null => exact iff_of_true rfl .null
    | scalar _ | keyed _ _ _ | sequence _ _ | foreign _ _ _ => exact iff_of_false nofun nofun
  | scalar s =>
    cases w with
    | scalar t => exact eq_scalar_iff
    | null | keyed _ _ _ | sequence _ _ | foreign _ _ _ => exact iff_of_false nofun nofun
  | keyed shape keys child ih =>
    cases w with
    | keyed shape' keys' child' =>
      rw [eq_keyed_iff]
      constructor
      · rintro ⟨rfl, hkeys, h⟩
        exact .keyed hkeys fun i j he => (ih i).1 (h i j he)
      · intro h
        cases h with
        | keyed hkeys h => exact ⟨rfl, hkeys, fun i j he => (ih i).2 (h i j he)⟩
    | null | scalar _ | sequence _ _ | foreign _ _ _ => exact iff_of_false nofun nofun
  | sequence n item ih =>
    cases w with
    | sequence n' item' =>
      rw [eq_sequence_iff]
      constructor
      · rintro ⟨rfl, h⟩
        exact .sequence fun i => (ih i).1 (h i)
      · intro h
        cases h with
        | sequence h => exact ⟨rfl, fun i => (ih i).2 (h i)⟩
    | null | scalar _ | keyed _ _ _ | foreign _ _ _ => exact iff_of_false nofun nofun
  | foreign face returned held =>
    cases w with
    | foreign face' returned' held' =>
      simp only [Value.eq, beq_iff_eq]
      constructor
      · exact .foreign
      · intro h
        cases h with
        | foreign h => exact h
    | null | scalar _ | keyed _ _ _ | sequence _ _ => exact iff_of_false nofun nofun

/-- **Equality of values can be turned round and chained**: it compares node by node, without
regard to the order of entries. It holds between a value and itself exactly if there is no NaN in
the value, at whatever depth. -/
theorem eq_partial_equivalence :
    (∀ v w : Value, v.eq w = true ↔ Same v w) ∧
    (∀ v w : Value, v.eq w = w.eq v) ∧
    (∀ u v w : Value, u.eq v = true → v.eq w = true → u.eq w = true) ∧
    ∀ v : Value, v.eq v = true ↔ ¬ HasNaN v := by
  refine ⟨fun v w => eq_iff_same, fun v w => ?_, fun u v w h h' => ?_, fun v => ?_⟩
  · rw [Bool.eq_iff_iff, eq_iff_same, eq_iff_same]
    exact ⟨Same.symm, Same.symm⟩
  · exact eq_iff_same.2 ((eq_iff_same.1 h).trans (eq_iff_same.1 h'))
  · rw [eq_iff_same]
    exact same_self_iff v

/-- Records whose entries stand in different orders and hold different zeros, and a sequence with a
NaN in it. -/
theorem eq_partial_equivalence_reordered :
    let zero : Value := float ⟨0⟩
    let minusZero : Value := float ⟨0x8000000000000000⟩
    let first := ofEntries .record [("a", zero), ("b", text "x")]
    let second := ofEntries .record [("b", text "x"), ("a", minusZero)]
    let third := ofEntries .record [("a", minusZero), ("b", text "x")]
    let nan := ofItems [null, float ⟨0x7FF8000000000000⟩]
    (first.eq second = true ∧ second.eq third = true ∧ first.eq third = true) ∧
      HasNaN nan ∧ nan.eq nan ≠ true := by
  intro zero minusZero first second third nan
  have hfirst : first.eq second = true := by rfl
  have hsecond : second.eq third = true := by rfl
  have hnan : HasNaN nan := .item ⟨1, by decide⟩ (.here (by decide))
  obtain ⟨-, -, htrans, hself⟩ := eq_partial_equivalence
  refine ⟨⟨hfirst, hsecond, htrans first second third hfirst hsecond⟩, hnan, ?_⟩
  exact fun h => (hself nan).1 h hnan

end Value

end AttributeGateway
