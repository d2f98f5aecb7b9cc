/-!
# Tables

A table holds at most one entry for each key, in the order in which the keys were first written.
Its view is `get?`: each operation is described by what it does to that view.
-/

namespace AttributeGateway

/-- A finite map whose entries keep the order in which their keys were first written. -/
structure Table (κ α : Type) where
  entries : List (κ × α)
  nodup : (entries.map Prod.fst).Nodup

namespace Table

variable {κ α : Type} [DecidableEq κ]

/-- The table without entries. -/
def empty : Table κ α := ⟨[], List.nodup_nil⟩

instance : EmptyCollection (Table κ α) := ⟨empty⟩

instance : Inhabited (Table κ α) := ⟨empty⟩

/-- The number of entries. -/
def size (t : Table κ α) : Nat := t.entries.length

/-- Whether there is no entry. -/
def isEmpty (t : Table κ α) : Bool := t.entries.isEmpty

/-- The keys, in the order in which they were first written. -/
def keys (t : Table κ α) : List κ := t.entries.map Prod.fst

/-- The value of the first entry with the key. -/
def lookup (k : κ) : List (κ × α) → Option α
  | [] => none
  | (k', a) :: rest => if k = k' then some a else lookup k rest

/-- The value of a key. -/
def get? (t : Table κ α) (k : κ) : Option α := lookup k t.entries

/-- Whether there is an entry for the key. -/
def contains (t : Table κ α) (k : κ) : Bool := (t.get? k).isSome

/-- Writes a value in the place of the entry with the key, or at the end. -/
def put (k : κ) (a : α) : List (κ × α) → List (κ × α)
  | [] => [(k, a)]
  | (k', b) :: rest => if k = k' then (k', a) :: rest else (k', b) :: put k a rest

theorem mem_keys_put {k k' : κ} {a : α} {l : List (κ × α)} :
    k' ∈ (put k a l).map Prod.fst ↔ k' = k ∨ k' ∈ l.map Prod.fst := by
  induction l with
  | nil => simp [put]
  | cons e rest ih =>
    obtain ⟨k₁, b⟩ := e
    by_cases h : k = k₁
    · subst h
      simp [put]
    · simp only [put, h, if_false, List.map_cons, List.mem_cons, ih]
      constructor
      · rintro (h' | h' | h')
        · exact .inr (.inl h')
        · exact .inl h'
        · exact .inr (.inr h')
      · rintro (h' | h' | h')
        · exact .inr (.inl h')
        · exact .inl h'
        · exact .inr (.inr h')

theorem nodup_put {k : κ} {a : α} {l : List (κ × α)} (h : (l.map Prod.fst).Nodup) :
    ((put k a l).map Prod.fst).Nodup := by
  induction l with
  | nil => simp [put]
  | cons e rest ih =>
    obtain ⟨k₁, b⟩ := e
    rw [List.map_cons, List.nodup_cons] at h
    by_cases hk : k = k₁
    · simpa [put, hk] using h
    · simp only [put, hk, if_false, List.map_cons, List.nodup_cons, mem_keys_put]
      exact ⟨fun h' => h'.elim (fun e => hk e.symm) h.1, ih h.2⟩

/-- Sets the value of a key. A new key goes to the end; a key that is there keeps its place. -/
def insert (t : Table κ α) (k : κ) (a : α) : Table κ α :=
  ⟨put k a t.entries, nodup_put t.nodup⟩

/-- Removes the entry with the key, if there is one. -/
def erase (t : Table κ α) (k : κ) : Table κ α :=
  ⟨t.entries.filter fun e => e.1 ≠ k,
    (List.Sublist.map Prod.fst List.filter_sublist).nodup t.nodup⟩

/-- Changes the value of a key, if it has one. -/
def modify (t : Table κ α) (k : κ) (f : α → α) : Table κ α :=
  match t.get? k with
  | some a => t.insert k (f a)
  | none => t

/-- The table of a list of entries: a repeated key keeps its first place and its last value. -/
def ofList (l : List (κ × α)) : Table κ α := l.foldl (fun t e => t.insert e.1 e.2) ∅

@[simp] theorem get?_empty (k : κ) : (∅ : Table κ α).get? k = none := rfl

theorem lookup_put (k k' : κ) (a : α) (l : List (κ × α)) :
    lookup k' (put k a l) = if k' = k then some a else lookup k' l := by
  induction l with
  | nil => simp [put, lookup]
  | cons e rest ih =>
    obtain ⟨k₁, b⟩ := e
    by_cases h : k = k₁
    · subst h
      by_cases h' : k' = k <;> simp [put, lookup, h']
    · by_cases h' : k' = k₁
      · subst h'
        simp [put, lookup, h, Ne.symm h]
      · simp [put, lookup, h, h', ih]

/-- Only the key that is written changes its value. -/
theorem get?_insert (t : Table κ α) (k k' : κ) (a : α) :
    (t.insert k a).get? k' = if k' = k then some a else t.get? k' :=
  lookup_put k k' a t.entries

theorem get?_modify (t : Table κ α) (k k' : κ) (f : α → α) :
    (t.modify k f).get? k' = if k' = k then (t.get? k).map f else t.get? k' := by
  rw [modify]
  cases ht : t.get? k with
  | some a => exact get?_insert t k k' (f a)
  | none =>
    by_cases hk : k' = k
    · rw [if_pos hk, hk]
      exact ht
    · rw [if_neg hk]

theorem lookup_filter_ne (k k' : κ) (l : List (κ × α)) :
    lookup k' (l.filter fun e => e.1 ≠ k) = if k' = k then none else lookup k' l := by
  induction l with
  | nil => simp [lookup]
  | cons e rest ih =>
    obtain ⟨k₁, b⟩ := e
    by_cases h : k₁ = k <;> by_cases h' : k' = k₁ <;> simp_all [lookup]

/-- Only the key that is removed loses its value. -/
theorem get?_erase (t : Table κ α) (k k' : κ) :
    (t.erase k).get? k' = if k' = k then none else t.get? k' :=
  lookup_filter_ne k k' t.entries

/-- A key has the value of its entry. -/
theorem mem_entries_iff {t : Table κ α} {k : κ} {a : α} :
    (k, a) ∈ t.entries ↔ t.get? k = some a := by
  obtain ⟨l, hn⟩ := t
  simp only [get?]
  induction l with
  | nil => simp [lookup]
  | cons e l ih =>
    obtain ⟨k', b⟩ := e
    rw [List.map_cons, List.nodup_cons] at hn
    rw [List.mem_cons, lookup, ih hn.2]
    split
    · next hk =>
      subst hk
      -- The key does not occur again.
      have hno : ¬ lookup k l = some a := fun h =>
        hn.1 (List.mem_map.2 ⟨(k, a), (ih hn.2).2 h, rfl⟩)
      simp [hno, eq_comm]
    · next hk => simp [hk]

/-- The order of the entries does not matter to the values. -/
theorem get?_of_perm {t t' : Table κ α} (h : t.entries.Perm t'.entries) (k : κ) :
    t.get? k = t'.get? k := by
  apply Option.ext
  intro a
  rw [← mem_entries_iff, ← mem_entries_iff]
  exact h.mem_iff

/-- A key that has a value is among the keys. -/
theorem mem_keys_of_get? {t : Table κ α} {k : κ} {a : α} (h : t.get? k = some a) : k ∈ t.keys := by
  rw [get?] at h
  rw [keys]
  generalize t.entries = l at h
  induction l with
  | nil => cases h
  | cons e rest ih =>
    rw [lookup] at h
    split at h
    · next hk => exact hk ▸ List.mem_cons_self
    · exact List.mem_cons_of_mem _ (ih h)

/-- A table is empty if no key has a value, and only then. -/
theorem isEmpty_iff {t : Table κ α} : t.isEmpty ↔ ∀ k, t.get? k = none := by
  rw [isEmpty, List.isEmpty_iff]
  constructor
  · intro h k
    rw [get?, h]
    rfl
  · intro h
    cases hl : t.entries with
    | nil => rfl
    | cons e rest =>
      have hk := h e.1
      rw [get?, hl, lookup, if_pos rfl] at hk
      cases hk

/-! ### Entries one by one -/

theorem filter_ne_of_not_mem {k : κ} {l : List (κ × α)} (h : k ∉ l.map Prod.fst) :
    (l.filter fun e => e.1 ≠ k) = l := by
  rw [List.filter_eq_self]
  intro e he
  exact decide_eq_true fun hk => h (hk ▸ List.mem_map_of_mem he)

theorem perm_put {k : κ} {a : α} {l : List (κ × α)} (h : (l.map Prod.fst).Nodup) :
    (put k a l).Perm ((k, a) :: l.filter fun e => e.1 ≠ k) := by
  induction l with
  | nil => exact .refl _
  | cons e rest ih =>
    obtain ⟨k₁, b⟩ := e
    rw [List.map_cons, List.nodup_cons] at h
    by_cases hk : k = k₁
    · subst hk
      rw [put, if_pos rfl, List.filter_cons_of_neg (by simp), filter_ne_of_not_mem h.1]
    · rw [put, if_neg hk, List.filter_cons_of_pos (by simpa using Ne.symm hk)]
      exact ((ih h.2).cons _).trans (.swap _ _ _)

theorem perm_of_lookup {k : κ} {a : α} {l : List (κ × α)} (h : (l.map Prod.fst).Nodup)
    (hk : lookup k l = some a) : l.Perm ((k, a) :: l.filter fun e => e.1 ≠ k) := by
  induction l with
  | nil => cases hk
  | cons e rest ih =>
    obtain ⟨k₁, b⟩ := e
    rw [List.map_cons, List.nodup_cons] at h
    rw [lookup] at hk
    split at hk
    · next heq =>
      cases hk
      subst heq
      rw [List.filter_cons_of_neg (by simp), filter_ne_of_not_mem h.1]
    · next hne =>
      rw [List.filter_cons_of_pos (by simpa using Ne.symm hne)]
      exact ((ih h.2 hk).cons _).trans (.swap _ _ _)

/-- Writing puts one entry to the others. -/
theorem entries_insert_perm (t : Table κ α) (k : κ) (a : α) :
    (t.insert k a).entries.Perm ((k, a) :: (t.erase k).entries) := perm_put t.nodup

/-- A key that has a value has one entry besides the others. -/
theorem entries_perm {t : Table κ α} {k : κ} {a : α} (h : t.get? k = some a) :
    t.entries.Perm ((k, a) :: (t.erase k).entries) := perm_of_lookup t.nodup h

/-- Without a value there is nothing to remove. -/
theorem erase_of_get? {t : Table κ α} {k : κ} (h : t.get? k = none) : t.erase k = t := by
  have hk : k ∉ t.entries.map Prod.fst := by
    rw [get?] at h
    generalize t.entries = l at h
    induction l with
    | nil => exact List.not_mem_nil
    | cons e rest ih =>
      rw [lookup] at h
      split at h
      · cases h
      · next hne =>
        rw [List.map_cons, List.mem_cons]
        exact fun hmem => hmem.elim hne (ih h)
  obtain ⟨entries, nodup⟩ := t
  simp only [erase, mk.injEq]
  exact filter_ne_of_not_mem hk

end Table

end AttributeGateway
