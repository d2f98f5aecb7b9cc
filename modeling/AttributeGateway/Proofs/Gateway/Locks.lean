import AttributeGateway.Gateway.Lock
import Mathlib.Data.List.Nodup

/-!
# What a fair lock guarantees

A task that has or wants a lock has one entry in it: it is held by the entries at the front and
waited for by those behind. Serving the queue moves the border between the two and nothing else, so
what an operation of one task does to the entries of the others is read off the list of entries.

* `Orderly` — no task has two entries, and a task that has the lock alone shares it with nobody.
* `Serves` — what an operation of a task does to the others: none of them gets an entry or loses the
  lock by it, and the lock stays orderly. Each of the three operations serves.
* `Full` — whoever is served next cannot have the lock yet. So behind each of the three operations
  nobody waits for a lock that nobody has.
-/

namespace AttributeGateway

namespace Lock

variable {l : Lock} {id : TaskId} {mode m : LockMode}

/-- Those who have the lock, and behind them those who wait for it. -/
def entries (l : Lock) : List (TaskId × LockMode) := l.held ++ l.queue

theorem mem_entries_of_held {e : TaskId × LockMode} (h : e ∈ l.held) : e ∈ l.entries :=
  List.mem_append_left _ h

theorem holds_iff : l.holds id mode = true ↔ (id, mode) ∈ l.held := by
  simp [holds]

/-! ### Serving the queue -/

/-- Serving the queue moves the border between those who have the lock and those who wait. -/
@[simp] theorem entries_serve (held queue : List (TaskId × LockMode)) :
    (serve held queue).entries = held ++ queue := by
  induction queue generalizing held with
  | nil => rfl
  | cons t queue ih =>
    rw [serve]
    split
    · rw [ih, List.append_assoc]
      rfl
    · rfl

/-- Whoever has the lock keeps it when the queue is served. -/
theorem subset_held_serve (held queue : List (TaskId × LockMode)) :
    held ⊆ (serve held queue).held := by
  induction queue generalizing held with
  | nil => exact List.Subset.refl _
  | cons t queue ih =>
    rw [serve]
    split
    · exact fun e he => ih (held ++ [t]) (List.mem_append_left _ he)
    · exact List.Subset.refl _

/-- Whoever holds alone holds with nobody else. -/
def Alone (held : List (TaskId × LockMode)) : Prop :=
  ∀ id, (id, .exclusive) ∈ held → held = [(id, .exclusive)]

theorem alone_of_admits {held : List (TaskId × LockMode)} {t : TaskId × LockMode}
    (h : admits held t.2 = true) : Alone (held ++ [t]) := by
  obtain ⟨id, mode⟩ := t
  intro id' hid'
  rcases mode with _ | _
  · -- Everybody shares the lock, so nobody has it alone.
    simp only [admits, List.all_eq_true, beq_iff_eq] at h
    simp only [List.mem_append, List.mem_singleton, Prod.mk.injEq, reduceCtorEq, and_false,
      or_false] at hid'
    exact absurd (h _ hid') (by simp)
  · simp only [admits, List.isEmpty_iff] at h
    subst h
    simp only [List.nil_append, List.mem_singleton, Prod.mk.injEq, and_true] at hid'
    simp [hid']

/-- Serving the queue gives the lock to nobody who would have to share it against the mode. -/
theorem alone_serve {held : List (TaskId × LockMode)} (h : Alone held)
    (queue : List (TaskId × LockMode)) : Alone (serve held queue).held := by
  induction queue generalizing held with
  | nil => exact h
  | cons t queue ih =>
    rw [serve]
    split
    · next ha => exact ih (alone_of_admits ha)
    · exact h

/-! ### Orderly locks -/

/-- No task has two entries, and a task that has the lock alone shares it with nobody. -/
structure Orderly (l : Lock) : Prop where
  /-- A task has at most one entry. -/
  nodup : (l.entries.map Prod.fst).Nodup
  /-- Whoever holds alone holds with nobody else. -/
  alone : Alone l.held

/-- A lock that nobody has or wants is orderly. -/
theorem orderly_empty : Orderly {} := ⟨List.nodup_nil, fun _ h => by simp at h⟩

/-- A task has its entry in one mode only. -/
theorem Orderly.mode_eq (h : l.Orderly) {m₁ m₂ : LockMode} (h₁ : (id, m₁) ∈ l.entries)
    (h₂ : (id, m₂) ∈ l.entries) : m₁ = m₂ :=
  congrArg Prod.snd (List.inj_on_of_nodup_map h.nodup h₁ h₂ rfl)

/-- If a task has the lock alone, whoever has the lock is that task. -/
theorem Orderly.eq_of_alone (h : l.Orderly) {id' : TaskId} (hid : (id, .exclusive) ∈ l.held)
    (hid' : (id', m) ∈ l.held) : id' = id ∧ m = .exclusive := by
  rw [h.alone id hid] at hid'
  simpa using hid'

/-! ### Operations of one task -/

/-- What an operation of a task on a lock leaves to the others. -/
structure Serves (id : TaskId) (l l' : Lock) : Prop where
  /-- The lock stays orderly. -/
  orderly : l'.Orderly
  /-- Nobody else gets an entry. -/
  entry : ∀ {id' m}, id' ≠ id → (id', m) ∈ l'.entries → (id', m) ∈ l.entries
  /-- Nobody else loses the lock. -/
  keeps : ∀ {id' m}, id' ≠ id → (id', m) ∈ l.held → (id', m) ∈ l'.held

/-- To leave a lock as it is serves. -/
theorem Orderly.serves (h : l.Orderly) : Serves id l l := ⟨h, fun _ h => h, fun _ h => h⟩

theorem mem_entries_request {e : TaskId × LockMode} :
    e ∈ (l.request id mode).entries ↔ e ∈ l.entries ∨ e = (id, mode) := by
  rw [request, entries_serve, entries, ← List.append_assoc, List.mem_append,
    List.mem_singleton]

/-- A task without an entry may ask for the lock. -/
theorem Orderly.serves_request (h : l.Orderly) (hid : ∀ m, (id, m) ∉ l.entries)
    (mode : LockMode) : Serves id l (l.request id mode) where
  orderly := by
    refine ⟨?_, alone_serve h.alone _⟩
    rw [request, entries_serve, ← List.append_assoc, List.map_append]
    refine List.Nodup.append h.nodup (List.nodup_singleton _) ?_
    intro i hi hi'
    simp only [List.map_cons, List.map_nil, List.mem_singleton] at hi'
    subst hi'
    obtain ⟨⟨i, m⟩, he, rfl⟩ := List.mem_map.1 hi
    exact hid m he
  entry hne he := by
    rcases mem_entries_request.1 he with he | he
    · exact he
    · exact absurd (congrArg Prod.fst he) hne
  keeps _ he := subset_held_serve _ _ he

theorem mem_entries_leave {e : TaskId × LockMode} :
    e ∈ (l.leave id).entries ↔ e ∈ l.entries ∧ e.1 ≠ id := by
  rw [leave, entries_serve, entries, ← List.filter_append, List.mem_filter, decide_eq_true_eq]

/-- A task that has given a lock back has no entry in it. -/
theorem not_mem_entries_leave : (id, m) ∉ (l.leave id).entries :=
  fun h => (mem_entries_leave.1 h).2 rfl

/-- A task may give the lock back, or stop waiting for it. -/
theorem Orderly.serves_leave (h : l.Orderly) (id : TaskId) : Serves id l (l.leave id) where
  orderly := by
    refine ⟨?_, alone_serve ?_ _⟩
    · rw [leave, entries_serve, ← List.filter_append]
      exact (List.Sublist.map Prod.fst List.filter_sublist).nodup h.nodup
    · intro i hi
      simp only [List.mem_filter, decide_eq_true_eq] at hi
      rw [h.alone i hi.1]
      simp [hi.2]
  entry _ he := (mem_entries_leave.1 he).1
  keeps hne he := subset_held_serve _ _ (by simp [he, hne])

/-- Going on to share a lock that was held alone serves those who wait to share it. -/
theorem Orderly.downgrade_eq (h : l.Orderly) (hid : (id, .exclusive) ∈ l.held) :
    l.downgrade id = serve [(id, .shared)] l.queue := by
  rw [downgrade, h.alone id hid]
  simp

theorem Orderly.mem_held_downgrade (h : l.Orderly) (hid : (id, .exclusive) ∈ l.held) :
    (id, .shared) ∈ (l.downgrade id).held := by
  rw [h.downgrade_eq hid]
  exact subset_held_serve _ _ (List.mem_singleton_self _)

theorem Orderly.mem_entries_downgrade (h : l.Orderly) (hid : (id, .exclusive) ∈ l.held)
    {e : TaskId × LockMode} :
    e ∈ (l.downgrade id).entries ↔ e = (id, .shared) ∨ e ∈ l.queue := by
  rw [h.downgrade_eq hid, entries_serve, List.singleton_append, List.mem_cons]

/-- A task that has the lock alone may go on to share it. -/
theorem Orderly.serves_downgrade (h : l.Orderly) (hid : (id, .exclusive) ∈ l.held) :
    Serves id l (l.downgrade id) where
  orderly := by
    refine ⟨?_, ?_⟩
    · have hn := h.nodup
      rw [entries, h.alone id hid] at hn
      rw [h.downgrade_eq hid, entries_serve]
      exact hn
    · rw [h.downgrade_eq hid]
      exact alone_serve (fun _ h => by simp at h) _
  entry hne he := by
    rcases (h.mem_entries_downgrade hid).1 he with he | he
    · exact absurd (congrArg Prod.fst he) hne
    · exact List.mem_append_right _ he
  keeps hne he := absurd (h.eq_of_alone hid he).1 hne

/-- A task that goes on to share a lock has its entry to share it. -/
theorem Orderly.mode_of_downgrade (h : l.Orderly) (hid : (id, .exclusive) ∈ l.held)
    (he : (id, m) ∈ (l.downgrade id).entries) : m = .shared :=
  (h.serves_downgrade hid).orderly.mode_eq he
    (mem_entries_of_held (h.mem_held_downgrade hid))

/-- Whoever else has or wants the lock keeps its entry when the lock is shared that was held
alone. -/
theorem mem_entries_downgrade_of_ne {id' : TaskId} (hne : id' ≠ id) (he : (id', m) ∈ l.entries) :
    (id', m) ∈ (l.downgrade id).entries := by
  rw [downgrade, entries_serve, List.mem_append]
  rcases List.mem_append.1 he with he | he
  · exact .inl (List.mem_map.2 ⟨(id', m), he, if_neg hne⟩)
  · exact .inr he

/-! ### Waiting -/

/-- The task that is served next cannot have the lock yet. -/
def Full (l : Lock) : Prop := ∀ t queue, l.queue = t :: queue → admits l.held t.2 = false

theorem full_empty : Full {} := nofun

/-- When the queue has been served, nobody in it could have been served. -/
theorem full_serve (held queue : List (TaskId × LockMode)) : (serve held queue).Full := by
  induction queue generalizing held with
  | nil => exact nofun
  | cons t queue ih =>
    rw [serve]
    split
    · exact ih _
    · next ha =>
      rintro t' queue' hq
      cases hq
      exact Bool.eq_false_iff.2 ha

/-- Nobody waits for a lock that nobody has. -/
theorem Full.exists_held (h : l.Full) {e : TaskId × LockMode} (he : e ∈ l.queue) :
    ∃ e', e' ∈ l.held := by
  obtain ⟨t, queue, hq⟩ := List.exists_cons_of_ne_nil (List.ne_nil_of_mem he)
  have hadmits := h t queue hq
  refine List.exists_mem_of_ne_nil _ fun hheld => ?_
  rw [hheld] at hadmits
  cases ht : t.2 <;> rw [ht] at hadmits <;> cases hadmits

end Lock

end AttributeGateway
