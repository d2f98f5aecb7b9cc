import AttributeGateway.Proofs.Gateway.Answers
import AttributeGateway.Proofs.Gateway.Waiting

/-!
# Who has the permits

A task that answers a line gets a permit before it takes the line up and gives the permit back when
it has come to its result, or when it is dropped. So those who have the permits are the tasks that
execute, one permit each; a permit that nobody has is free.

* `System.executes` — a task has been given a permit and has not come to its result.
* `System.Employed` — nobody has or wants two permits, and who answers a line with a permit has it;
  `Employed.after?` says that every event keeps it so.
* `System.executes_iff_mem_held` — who has a permit executes, and nobody else does.
-/

namespace AttributeGateway

variable {ρ τ σ : Type}

/-! ### Permits -/

namespace Permits

variable {p : Permits} {id id' : TaskId}

theorem nodup_request (h : p.entries.Nodup) (hid : id ∉ p.entries) :
    (p.request id).entries.Nodup := by
  rw [entries_request, ← List.concat_eq_append]
  exact h.concat hid

theorem nodup_leave (h : p.entries.Nodup) : (p.leave id).entries.Nodup := by
  rw [entries_leave]
  exact h.filter _

/-- Nobody loses a permit when others are served. -/
theorem mem_held_serve (h : id ∈ p.held) : id ∈ p.serve.held := List.mem_append_left _ h

theorem mem_held_request (h : id' ∈ p.held) : id' ∈ (p.request id).held :=
  mem_held_serve (p := { p with queue := p.queue ++ [id] }) h

theorem mem_held_leave (h : id' ∈ p.held) (hne : id' ≠ id) : id' ∈ (p.leave id).held := by
  have hkept : id' ∈ p.held.filter (· ≠ id) := List.mem_filter.2 ⟨h, decide_eq_true hne⟩
  exact mem_held_serve (p := { p with
    free := p.free + p.held.count id
    held := p.held.filter (· ≠ id)
    queue := p.queue.filter (· ≠ id) }) hkept

end Permits

/-! ### Tasks -/

namespace Activity

variable {act : Activity τ σ}

/-- Whether a permit has been asked for and not been found yet. -/
def isQueueing : Activity τ σ → Bool
  | .queueing _ => true
  | _ => false

theorem isQueueing_iff : act.isQueueing ↔ ∃ line, act = .queueing line := by
  cases act <;> simp [isQueueing]

end Activity

namespace Task

variable [Remote ρ τ σ] {g g' : Gateway ρ σ} {id : TaskId} {t t' : Task τ σ}

/-- What a step of a task does to the permits. -/
theorem workers_cases (h : t.step id g = some (g', t')) :
    g'.workers = g.workers ∨
      g'.workers = g.workers.leave id ∧ t'.activity.result?.isSome = true ∨
      g'.workers = g.workers.request id ∧ ∃ line, t.activity = .beginning (.submit line) := by
  rw [step] at h
  split at h
  · rw [takeUp] at h
    split at h
    · cases h
      exact .inr (.inl ⟨rfl, rfl⟩)
    · split at h
      · cases h
        exact .inl rfl
      · cases h
  · rw [Option.map_eq_some_iff] at h
    obtain ⟨⟨g₁, act⟩, hact, h⟩ := h
    rcases Activity.workers_step hact with hw | ⟨hw, line, rfl⟩
    · simp only [settle] at h
      split at h
      · next hends =>
        cases h
        exact .inr (.inl ⟨by rw [hw], (Bool.and_eq_true _ _ ▸ hends).2⟩)
      · cases h
        exact .inl hw
    · simp only [settle, Activity.result?, Option.isSome_none, Bool.and_false, Bool.false_eq_true,
        if_false, Prod.mk.injEq] at h
      obtain ⟨rfl, rfl⟩ := h
      exact .inr (.inr ⟨hw, line, (Activity.submit_of_queueing hact).1⟩)

/-- A task that answers a line with a permit has had it before the step, or has just been given
it. -/
theorem employed_step (h : t.step id g = some (g', t'))
    (ht : t.employed = true → ∃ words, t.activity.Answering words) (he : t'.employed = true) :
    (t.employed = true ∨ id ∈ g.workers.held) ∧ g'.workers = g.workers ∧
      ∃ words, t'.activity.Answering words := by
  rw [step] at h
  split at h
  · next line hline =>
    have hnot : t.employed = true → False := by
      intro he
      obtain ⟨words, hwords⟩ := ht he
      rw [hline] at hwords
      cases hwords
    rw [takeUp] at h
    split at h
    · cases h
      exact (hnot he).elim
    · split at h
      · next hheld =>
        cases h
        exact ⟨.inr (List.contains_iff_mem.1 hheld), rfl, _, .beginning rfl⟩
      · cases h
  · rw [Option.map_eq_some_iff] at h
    obtain ⟨⟨g₁, act⟩, hact, h⟩ := h
    simp only [settle] at h
    split at h
    · cases h
      cases he
    · cases h
      obtain ⟨words, hwords⟩ := ht he
      have hwords' := hwords.step hact
      refine ⟨.inl he, (Activity.workers_step hact).resolve_right ?_, words, hwords'⟩
      rintro ⟨-, line, rfl⟩
      cases hwords'

end Task

/-! ### Systems -/

namespace System

variable [Remote ρ τ σ] {s s' : System ρ τ σ} {e : Event ρ σ} {id : TaskId} {total : Nat}

/-- Nobody has or wants two permits, and who answers a line with a permit has it. -/
structure Employed (s : System ρ τ σ) : Prop where
  /-- Nobody has or wants two permits. -/
  once : s.gateway.workers.entries.Nodup
  /-- Who answers a line with a permit has it. -/
  hired : ∀ {id t}, s.task? id = some t → t.employed = true →
    id ∈ s.gateway.workers.held ∧ ∃ words, t.activity.Answering words

omit [Remote ρ τ σ] in
theorem employed_start (remote : ρ) (total : Nat) :
    Employed (start remote ⟨total, [], [], false⟩ : System ρ τ σ) where
  once := List.nodup_nil
  hired ht := by cases ht

omit [Remote ρ τ σ] in
theorem Employed.of_workers (hs : Employed s) (hw : s'.gateway.workers = s.gateway.workers)
    (ho : ∀ {id t}, s'.task? id = some t → s.task? id = some t ∨ t.employed = false) :
    Employed s' := by
  refine ⟨by rw [hw]; exact hs.once, fun {id t} ht he => ?_⟩
  rw [hw]
  rcases ho ht with ht | hno
  · exact hs.hired ht he
  · rw [hno] at he
    cases he

omit [Remote ρ τ σ] in
/-- A task that leaves takes its own permit with it only. -/
theorem Employed.leave (hs : Employed s)
    (hw : s'.gateway.workers = s.gateway.workers.leave id)
    (ho : ∀ id', id' ≠ id → s'.task? id' = s.task? id')
    (hself : ∀ t, s'.task? id = some t → t.employed = false) : Employed s' := by
  refine ⟨by rw [hw]; exact Permits.nodup_leave hs.once, fun {id' t} ht he => ?_⟩
  have hne : id' ≠ id := by
    rintro rfl
    rw [hself t ht] at he
    cases he
  rw [ho id' hne] at ht
  obtain ⟨hheld, hwords⟩ := hs.hired ht he
  rw [hw]
  exact ⟨Permits.mem_held_leave hheld hne, hwords⟩

theorem Employed.advance (hs : Employed s) (hp : Staffed total s)
    (h : s.advance? id = some s') : Employed s' := by
  obtain ⟨t, t', ht, hstep, htasks⟩ := advance_cases h
  have htask := task?_of_set ht htasks
  have ho : ∀ id', id' ≠ id → s'.task? id' = s.task? id' :=
    fun id' hne => (htask id').trans (if_neg hne)
  have hself : s'.task? id = some t' := (htask id).trans (if_pos rfl)
  -- A task that leaves is not employed any more.
  have hidle (hne : s'.gateway.workers ≠ s.gateway.workers) (t₁ : Task τ σ)
      (ht₁ : s'.task? id = some t₁) : t₁.employed = false := by
    obtain rfl := Option.some.inj (hself.symm.trans ht₁)
    cases he : t'.employed with
    | false => rfl
    | true =>
      exact absurd (Task.employed_step hstep (fun h => (hs.hired ht h).2) he).2.1 hne
  by_cases hsame : s'.gateway.workers = s.gateway.workers
  · refine ⟨by rw [hsame]; exact hs.once, fun {id' t₁} ht₁ he => ?_⟩
    rw [hsame]
    by_cases hid : id' = id
    · subst hid
      obtain rfl := Option.some.inj (hself.symm.trans ht₁)
      obtain ⟨hheld, -, hwords⟩ := Task.employed_step hstep (fun h => (hs.hired ht h).2) he
      exact ⟨hheld.elim (fun h => (hs.hired ht h).1) id, hwords⟩
    · rw [ho id' hid] at ht₁
      exact hs.hired ht₁ he
  · rcases Task.workers_cases hstep with hw | ⟨hw, -⟩ | ⟨hw, line, hact⟩
    · exact absurd hw hsame
    · exact hs.leave hw ho (hidle hsame)
    · -- The task stands for the first time in the queue.
      have hnot : id ∉ s.gateway.workers.entries := by
        intro hid
        obtain ⟨t₁, ht₁, he⟩ := hp.engaged hid
        obtain rfl := Option.some.inj (ht.symm.trans ht₁)
        rcases he.permit with he | ⟨line', hq⟩
        · obtain ⟨-, words, hwords⟩ := hs.hired ht he
          rw [hact] at hwords
          cases hwords
        · rw [hact] at hq
          cases hq
      refine ⟨by rw [hw]; exact Permits.nodup_request hs.once hnot, fun {id' t₁} ht₁ he => ?_⟩
      by_cases hid : id' = id
      · subst hid
        rw [hidle hsame t₁ ht₁] at he
        cases he
      · rw [ho id' hid] at ht₁
        rw [hw]
        exact ⟨Permits.mem_held_request (hs.hired ht₁ he).1, (hs.hired ht₁ he).2⟩

/-- **Every event keeps the permits with those who are employed.** -/
theorem Employed.after? (hs : Employed s) (hp : Staffed total s) (h : s.after? e = some s') :
    Employed s' := by
  cases e with
  | begin op =>
    cases h
    refine hs.of_workers rfl fun {id t} ht => ?_
    rw [task?_begin] at ht
    split at ht
    · cases ht
      exact .inr rfl
    · exact .inl ht
  | advance id => exact hs.advance hp h
  | abandon id =>
    cases h
    rcases abandon_cases s id with ⟨-, hsame⟩ | ⟨t, ht, hdropped⟩
    · rw [hsame]
      exact hs
    · have htasks : (s.abandon id).tasks = s.tasks.set id none := by rw [hdropped]
      have htask := task?_of_set ht htasks
      refine hs.leave ?_ (fun id' (hne : id' ≠ id) => (htask id').trans (if_neg hne))
        fun t₁ ht₁ => ?_
      · rw [hdropped]
        exact Task.workers_abandon id t s.gateway
      · rw [htask, if_pos rfl] at ht₁
        cases ht₁
  | acquire url =>
    cases h
    exact hs.of_workers (by simp) .inl
  | addHolder url | alter change =>
    cases h
    exact hs.of_workers rfl .inl
  | withdraw =>
    cases h
    exact ⟨hs.once, fun ht he => hs.hired ht he⟩

/-! ### Who executes -/

/-- Whether a task has been given a permit and has not come to its result. -/
def executes (s : System ρ τ σ) (id : TaskId) : Bool :=
  (s.task? id).any fun t => t.activity.result?.isNone &&
    (t.employed || t.activity.isQueueing && s.gateway.workers.held.contains id)

omit [Remote ρ τ σ] in
theorem executes_iff : s.executes id ↔ ∃ t, s.task? id = some t ∧ t.activity.result? = none ∧
    (t.employed = true ∨
      (∃ line, t.activity = .queueing line) ∧ id ∈ s.gateway.workers.held) := by
  rw [executes, Option.any_eq_true]
  simp only [Bool.and_eq_true, Bool.or_eq_true, Option.isNone_iff_eq_none,
    Activity.isQueueing_iff, List.contains_iff_mem]

omit [Remote ρ τ σ] in
/-- **Who has a permit executes**, and nobody else does. -/
theorem executes_iff_mem_held (hs : Employed s) (hp : Staffed total s) :
    s.executes id ↔ id ∈ s.gateway.workers.held := by
  rw [executes_iff]
  constructor
  · rintro ⟨t, ht, -, he | ⟨-, hheld⟩⟩
    · exact (hs.hired ht he).1
    · exact hheld
  · intro hheld
    obtain ⟨t, ht, he⟩ := hp.engaged (List.mem_append_left _ hheld)
    exact ⟨t, ht, he.unfinished, he.permit.imp_right fun hq => ⟨hq, hheld⟩⟩

end System

end AttributeGateway
