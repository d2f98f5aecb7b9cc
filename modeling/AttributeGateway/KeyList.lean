import AttributeGateway.Table

/-!
# Lists of distinct keys

Keyed data, in values as in JSON documents, is a list of distinct keys together with a family that
gives each key its child. A child belongs to a position of the list, so no key is ever without a
child and none has two.
-/

namespace AttributeGateway

/-- Distinct keys, in the order in which they were first written. -/
structure KeyList where
  names : List String
  nodup : names.Nodup

namespace KeyList

/-- The number of keys. -/
abbrev length (ks : KeyList) : Nat := ks.names.length

/-- The key at a position. -/
def key (ks : KeyList) (i : Fin ks.length) : String := ks.names.get i

/-- The position of a key. -/
def find? (ks : KeyList) (k : String) : Option (Fin ks.length) := ks.names.finIdxOf? k

/-- The entries of a family over the keys, in order. -/
def entries {α : Type} (ks : KeyList) (child : Fin ks.length → α) : List (String × α) :=
  List.ofFn fun i => (ks.key i, child i)

/-- Different positions hold different keys. -/
theorem key_injective {ks : KeyList} {i j : Fin ks.length} (h : ks.key i = ks.key j) : i = j := by
  obtain ⟨i, hi⟩ := i
  obtain ⟨j, hj⟩ := j
  simp only [key, List.get_eq_getElem] at h
  exact Fin.ext ((List.getElem_inj ks.nodup).1 h)

/-- A position is found for a key exactly if the key stands there. -/
theorem find?_eq_some_iff {ks : KeyList} {k : String} {i : Fin ks.length} :
    ks.find? k = some i ↔ ks.key i = k := by
  rw [find?, List.finIdxOf?_eq_some_iff]
  constructor
  · exact fun h => h.1
  · refine fun h => ⟨h, fun j hj e => ?_⟩
    have : j = i := key_injective (e.trans h.symm)
    omega

/-- A key is found where it stands. -/
theorem find?_key {ks : KeyList} (i : Fin ks.length) : ks.find? (ks.key i) = some i :=
  find?_eq_some_iff.2 rfl

/-- The keys are what stands at some position. -/
theorem mem_names_iff {ks : KeyList} {k : String} : k ∈ ks.names ↔ ∃ i, ks.key i = k :=
  List.mem_iff_get

theorem key_mem {ks : KeyList} (i : Fin ks.length) : ks.key i ∈ ks.names :=
  mem_names_iff.2 ⟨i, rfl⟩

/-- No position is found for a key exactly if it is not among the keys. -/
theorem find?_eq_none_iff {ks : KeyList} {k : String} : ks.find? k = none ↔ k ∉ ks.names := by
  rw [mem_names_iff, Option.eq_none_iff_forall_ne_some, not_exists]
  exact forall_congr' fun i => not_congr find?_eq_some_iff

end KeyList

/-- The keys of a table. -/
def Table.keyList {α : Type} (t : Table String α) : KeyList := ⟨t.keys, t.nodup⟩

/-- The value at the position of a key. -/
def Table.child {α : Type} (t : Table String α) (i : Fin t.keyList.length) : α :=
  (t.entries.get (i.cast (List.length_map _))).2

end AttributeGateway
