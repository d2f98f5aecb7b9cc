import AttributeGateway.Json.Parser
import AttributeGateway.Proofs.Json.Tokens
import Mathlib.Data.Finset.Lattice.Fold
import Mathlib.Data.List.OfFn
import Mathlib.Order.Lattice.Nat

/-!
# Reading a written document

The tokens of a document take the reader from awaiting a value to having it complete, on top of
whatever arrays and objects are open, as long as no more of them than the reader allows are open at
the same time. So a document that is not nested too deeply is read from its text.

* `depth` — how deeply arrays and objects are nested.
* `foldlM_next_items`, `foldlM_next_members` — what is read of an array and of an object.
* `foldlM_next_tokensOf` — a value is read from its tokens, on any stack.
* `parse?_print` — a document is read from its text.
-/

namespace AttributeGateway

/-! ### Arrays and objects of what has been read -/

namespace Table

variable {κ α : Type} [DecidableEq κ] {k : κ} {a : α} {l : List (κ × α)}

/-- A new key is written behind the others. -/
theorem put_of_not_mem (h : k ∉ l.map Prod.fst) : put k a l = l ++ [(k, a)] := by
  induction l with
  | nil => rfl
  | cons e l ih =>
    rw [List.map_cons, List.mem_cons, not_or] at h
    rw [put, if_neg h.1, ih h.2, List.cons_append]

theorem entries_foldl_insert (t : Table κ α) (h : ((t.entries ++ l).map Prod.fst).Nodup) :
    (l.foldl (fun t e => t.insert e.1 e.2) t).entries = t.entries ++ l := by
  induction l generalizing t with
  | nil => simp
  | cons e l ih =>
    have hnot : e.1 ∉ t.entries.map Prod.fst := by
      rw [List.map_append, List.nodup_append'] at h
      exact fun hmem => h.2.2 hmem (by simp)
    have hinsert : (t.insert e.1 e.2).entries = t.entries ++ [e] := put_of_not_mem hnot
    rw [List.foldl_cons, ih _ (by rw [hinsert, List.append_assoc]; exact h), hinsert,
      List.append_assoc]
    rfl

/-- Entries with distinct keys are kept as they are. -/
theorem entries_ofList (h : (l.map Prod.fst).Nodup) : (ofList l).entries = l :=
  entries_foldl_insert ∅ h

end Table

namespace Json

variable {stack : List Container} {aw : Awaited} {t : Token}

theorem array_congr {n n' : Nat} {item : Fin n → Json} {item' : Fin n' → Json} (hn : n = n')
    (hitem : ∀ i, item i = item' (i.cast hn)) : array n item = array n' item' := by
  subst hn
  exact congrArg _ (funext hitem)

theorem object_congr {keys keys' : KeyList} {child : Fin keys.length → Json}
    {child' : Fin keys'.length → Json} (hkeys : keys = keys')
    (hchild : ∀ i, child i = child' (i.cast (by rw [hkeys]))) :
    object keys child = object keys' child' := by
  subst hkeys
  exact congrArg _ (funext hchild)

/-- An array is the array of its items. -/
theorem ofItems_ofFn {n : Nat} (item : Fin n → Json) :
    ofItems (List.ofFn item) = .array n item :=
  array_congr List.length_ofFn fun i => List.get_ofFn item i

/-- An object is the object of its entries. -/
theorem ofEntries_entries (keys : KeyList) (child : Fin keys.length → Json) :
    ofEntries (keys.entries child) = .object keys child := by
  have hnames : (keys.entries child).map Prod.fst = keys.names := by
    rw [KeyList.entries, List.map_ofFn]
    exact List.ofFn_get keys.names
  have hentries : (Table.ofList (keys.entries child)).entries = keys.entries child :=
    Table.entries_ofList (by rw [hnames]; exact keys.nodup)
  have hkeys : (Table.ofList (keys.entries child)).keyList = keys := by
    obtain ⟨names, nodup⟩ := keys
    simp only [Table.keyList, Table.keys, KeyList.mk.injEq]
    rw [hentries, hnames]
  refine object_congr hkeys fun i => ?_
  have hentry := List.get_of_eq hentries (i.cast (List.length_map _))
  rw [Table.child, hentry]
  exact congrArg Prod.snd (List.get_ofFn _ _)

/-! ### Nesting -/

/-- How deeply arrays and objects are nested. -/
def depth : Json → Nat
  | .array _ item => (Finset.univ.sup fun i => (item i).depth) + 1
  | .object _ child => (Finset.univ.sup fun i => (child i).depth) + 1
  | _ => 0

theorem depth_item_lt {n : Nat} (item : Fin n → Json) (i : Fin n) :
    (item i).depth < (array n item).depth :=
  Nat.lt_succ_of_le (Finset.le_sup (f := fun i => (item i).depth) (Finset.mem_univ i))

theorem depth_child_lt {keys : KeyList} (child : Fin keys.length → Json) (i : Fin keys.length) :
    (child i).depth < (object keys child).depth :=
  Nat.lt_succ_of_le (Finset.le_sup (f := fun i => (child i).depth) (Finset.mem_univ i))

/-! ### Reading values -/

/-- A value may come next. -/
def Awaited.BeginsValue (aw : Awaited) : Prop := aw = .value ∨ aw = .itemOrEnd

theorem next_of_beginsValue (h : aw.BeginsValue) (ht : t ≠ .endArray) :
    Reading.next ⟨stack, aw⟩ t = Reading.beginValue stack t := by
  rcases h with rfl | rfl
  · rfl
  · cases t <;> first | rfl | exact absurd rfl ht

/-- **The value is read from the tokens**, wherever a value may come next and as many containers
may still be opened as it has. -/
def Reads (j : Json) (tokens : List Token) : Prop :=
  ∀ stack aw, Awaited.BeginsValue aw → stack.length + j.depth ≤ maxDepth →
    tokens.foldlM Reading.next ⟨stack, aw⟩ = some (Reading.complete stack j)

/-- A value of one token. -/
theorem reads_singleton {j : Json} (ht : t ≠ .endArray)
    (h : ∀ stack, Reading.beginValue stack t = some (Reading.complete stack j)) :
    Reads j [t] := by
  intro stack aw haw _
  rw [List.foldlM_cons, next_of_beginsValue haw ht, h]
  rfl

theorem next_beginArray (haw : aw.BeginsValue) (h : stack.length < maxDepth) :
    Reading.next ⟨stack, aw⟩ .beginArray = some ⟨.array [] :: stack, .itemOrEnd⟩ := by
  rw [next_of_beginsValue haw (by simp)]
  exact if_pos h

theorem next_beginObject (haw : aw.BeginsValue) (h : stack.length < maxDepth) :
    Reading.next ⟨stack, aw⟩ .beginObject = some ⟨.object [] "" :: stack, .nameOrEnd⟩ := by
  rw [next_of_beginsValue haw (by simp)]
  exact if_pos h

/-- What has been read of a container has its last part first. -/
theorem reverse_ofFn_append {α : Type} {k : Nat} (f : Fin (k + 1) → α) (l : List α) :
    (List.ofFn f).reverse ++ l = (List.ofFn fun i => f i.succ).reverse ++ f 0 :: l := by
  rw [List.ofFn_succ, List.reverse_cons, List.append_assoc]
  rfl

/-- **The items of an array** are put before the items that have been read. -/
theorem foldlM_next_items {k : Nat} {item : Fin (k + 1) → Json} {tokens : Fin (k + 1) → List Token}
    (h : ∀ i, Reads (item i) (tokens i)) (items : List Json) (haw : aw.BeginsValue)
    (hdepth : ∀ i, stack.length + 1 + (item i).depth ≤ maxDepth) :
    (commaTokens (List.ofFn tokens)).foldlM Reading.next ⟨.array items :: stack, aw⟩ =
      some ⟨.array ((List.ofFn item).reverse ++ items) :: stack, .commaOrEnd⟩ := by
  induction k generalizing items aw with
  | zero => exact h 0 (.array items :: stack) aw haw (hdepth 0)
  | succ k ih =>
    have hrest := ih (fun i => h i.succ) (item 0 :: items) (.inl rfl) fun i => hdepth i.succ
    rw [commaTokens_ofFn, List.foldlM_append, h 0 (.array items :: stack) aw haw (hdepth 0),
      reverse_ofFn_append]
    exact hrest

/-- A name may come next. -/
def Awaited.BeginsMember (aw : Awaited) : Prop := aw = .name ∨ aw = .nameOrEnd

theorem next_of_beginsMember (h : aw.BeginsMember) (members : List (String × Json))
    (name name' : String) : Reading.next ⟨.object members name :: stack, aw⟩ (.string name') =
      some ⟨.object members name' :: stack, .colon⟩ := by
  rcases h with rfl | rfl <;> rfl

theorem foldlM_next_member {j : Json} {tokens : List Token} (h : Reads j tokens)
    (members : List (String × Json)) (name key : String) (haw : aw.BeginsMember)
    (hdepth : stack.length + 1 + j.depth ≤ maxDepth) :
    (.string key :: .colon :: tokens).foldlM Reading.next ⟨.object members name :: stack, aw⟩ =
      some ⟨.object ((key, j) :: members) key :: stack, .commaOrEnd⟩ := by
  rw [List.foldlM_cons, next_of_beginsMember haw]
  exact h (.object members key :: stack) .value (.inl rfl) hdepth

/-- **The members of an object** are put before the members that have been read. -/
theorem foldlM_next_members {k : Nat} {key : Fin (k + 1) → String} {child : Fin (k + 1) → Json}
    {tokens : Fin (k + 1) → List Token} (h : ∀ i, Reads (child i) (tokens i))
    (members : List (String × Json)) (name : String) (haw : aw.BeginsMember)
    (hdepth : ∀ i, stack.length + 1 + (child i).depth ≤ maxDepth) :
    ∃ name', (commaTokens (List.ofFn fun i => .string (key i) :: .colon :: tokens i)).foldlM
        Reading.next ⟨.object members name :: stack, aw⟩ =
      some ⟨.object ((List.ofFn fun i => (key i, child i)).reverse ++ members) name' :: stack,
        .commaOrEnd⟩ := by
  induction k generalizing members name aw with
  | zero => exact ⟨key 0, foldlM_next_member (h 0) members name (key 0) haw (hdepth 0)⟩
  | succ k ih =>
    have hfirst := foldlM_next_member (h 0) members name (key 0) haw (hdepth 0)
    obtain ⟨name', hrest⟩ := ih (fun i => h i.succ) ((key 0, child 0) :: members) (key 0) (.inl rfl)
      fun i => hdepth i.succ
    refine ⟨name', ?_⟩
    rw [commaTokens_ofFn, List.foldlM_append, hfirst, reverse_ofFn_append]
    exact hrest

/-- An array that has been begun is read to its end. -/
theorem foldlM_next_array {n : Nat} {item : Fin n → Json} {tokens : Fin n → List Token}
    (h : ∀ i, Reads (item i) (tokens i))
    (hdepth : ∀ i, stack.length + 1 + (item i).depth ≤ maxDepth) :
    (commaTokens (List.ofFn tokens) ++ [Token.endArray]).foldlM Reading.next
      ⟨.array [] :: stack, .itemOrEnd⟩ = some (Reading.complete stack (.array n item)) := by
  rw [← ofItems_ofFn item]
  cases n with
  | zero => rfl
  | succ k =>
    have hitems := foldlM_next_items h [] (.inr rfl) hdepth
    have hend : Reading.next ⟨.array ((List.ofFn item).reverse ++ []) :: stack, .commaOrEnd⟩
        .endArray = some (Reading.complete stack (ofItems (List.ofFn item))) := by
      rw [List.append_nil]
      exact congrArg (fun l => some (Reading.complete stack (ofItems l))) (List.reverse_reverse _)
    rw [List.foldlM_append, hitems, Option.bind_eq_bind, Option.bind_some, List.foldlM_cons, hend]
    rfl

/-- An object that has been begun is read to its end. -/
theorem foldlM_next_object {n : Nat} {key : Fin n → String} {child : Fin n → Json}
    {tokens : Fin n → List Token} (h : ∀ i, Reads (child i) (tokens i))
    (hdepth : ∀ i, stack.length + 1 + (child i).depth ≤ maxDepth) :
    (commaTokens (List.ofFn fun i => .string (key i) :: .colon :: tokens i) ++
        [Token.endObject]).foldlM Reading.next ⟨.object [] "" :: stack, .nameOrEnd⟩ =
      some (Reading.complete stack (ofEntries (List.ofFn fun i => (key i, child i)))) := by
  cases n with
  | zero => rfl
  | succ k =>
    obtain ⟨name, hmembers⟩ := foldlM_next_members h [] "" (.inr rfl) hdepth
    have hend : Reading.next ⟨.object ((List.ofFn fun i => (key i, child i)).reverse ++ []) name ::
        stack, .commaOrEnd⟩ .endObject =
          some (Reading.complete stack (ofEntries (List.ofFn fun i => (key i, child i)))) := by
      rw [List.append_nil]
      exact congrArg (fun l => some (Reading.complete stack (ofEntries l))) (List.reverse_reverse _)
    rw [List.foldlM_append, hmembers, Option.bind_eq_bind, Option.bind_some, List.foldlM_cons, hend]
    rfl

/-- **A value is read from its tokens.** -/
theorem reads_tokensOf (j : Json) : Reads j j.tokensOf := by
  induction j with
  | null => exact reads_singleton (by simp) fun _ => rfl
  | bool b => exact reads_singleton (by simp) fun _ => rfl
  | number n => exact reads_singleton (by simp) fun _ => rfl
  | string s => exact reads_singleton (by simp) fun _ => rfl
  | array n item ih =>
    intro stack aw haw hdepth
    have hitem (i : Fin n) : stack.length + 1 + (item i).depth ≤ maxDepth := by
      have hlt := depth_item_lt item i
      omega
    have hroom : stack.length < maxDepth := by
      rw [depth] at hdepth
      omega
    rw [tokensOf, List.foldlM_cons, next_beginArray haw hroom]
    exact foldlM_next_array ih hitem
  | object keys child ih =>
    intro stack aw haw hdepth
    have hchild (i : Fin keys.length) : stack.length + 1 + (child i).depth ≤ maxDepth := by
      have hlt := depth_child_lt child i
      omega
    have hroom : stack.length < maxDepth := by
      rw [depth] at hdepth
      omega
    rw [tokensOf, List.foldlM_cons, next_beginObject haw hroom, ← ofEntries_entries keys child]
    exact foldlM_next_object ih hchild

/-- **A document that is not nested too deeply is read from its text**, as far as its numbers
are. -/
theorem parse?_print {j : Json} (hnumbers : j.NumbersReadBack) (h : j.depth ≤ maxDepth) :
    parse? j.print = some j := by
  have hread := j.reads_tokensOf [] .value (.inl rfl) (by simpa using h)
  rw [parse?, print, String.toList_ofList, ofText?, tokens_text hnumbers, Option.bind_some,
    ofTokens?, hread]
  rfl

end Json

end AttributeGateway
