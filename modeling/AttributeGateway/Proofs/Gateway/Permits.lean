import AttributeGateway.Proofs.Gateway.Runs

/-!
# Withdrawing permits

Tasks ask for permits and give them back; they never withdraw any. So if permits have been
withdrawn, somebody has asked for it.

* `Activity.workers_step` — but for asking, a step of an activity leaves the permits alone.
* `Task.withdrawn_step`, `Task.withdrawn_abandon` — no task withdraws permits.
-/

namespace AttributeGateway

variable {ρ τ σ : Type}

namespace Gateway

variable (g : Gateway ρ σ)

@[simp] theorem workers_acquire (url : String) : (g.acquire url).2.workers = g.workers := by
  rw [acquire]
  split <;> rfl

@[simp] theorem workers_invalidate (h : HolderId) : (g.invalidate h).workers = g.workers := by
  simp only [invalidate]
  split <;> rfl

theorem workers_evict {g g' : Gateway ρ σ} {url : String} {o : Option HolderId}
    (h : g.evict url = (o, g')) : g'.workers = g.workers := by
  cases h
  rfl

end Gateway

namespace Access

variable [Remote ρ τ σ] {id : TaskId} {a : Access τ σ} {g g' : Gateway ρ σ} {n : Next τ σ}

/-- An access has nothing to do with permits. -/
theorem Step.workers (h : a.Step id g g' n) : g'.workers = g.workers := by
  cases h <;> rfl

end Access

namespace Activity

variable {g g' : Gateway ρ σ} {id : TaskId} {act act' : Activity τ σ}

@[simp] theorem workers_answer (r : Response) : (answer (τ := τ) r g).1.workers = g.workers := rfl

@[simp] theorem workers_connect (r : Reading) (inside again : Bool) :
    (connect (τ := τ) r inside again g).1.workers = g.workers := by
  simp [connect]

@[simp] theorem workers_giveUp (h : HolderId) (f : Fault) :
    (giveUp (τ := τ) h f g).1.workers = g.workers := by
  simp [giveUp, Gateway.count]

@[simp] theorem workers_proceed (h : HolderId) (get : Get) (lines : List String)
    (rest : List Query) : (proceed (τ := τ) h get lines rest g).1.workers = g.workers := by
  induction rest generalizing lines g with
  | nil => rfl
  | cons q queries ih =>
    rw [proceed]
    split
    · rfl
    · split
      · exact ih (g := g.countUnavailable) _
      · exact workers_giveUp h _

@[simp] theorem workers_settle (h : HolderId) (r : Reading) (found : Except Fault Value) :
    (settle (τ := τ) h r found g).1.workers = g.workers := by
  unfold settle
  split
  · split <;> exact workers_proceed ..
  · split
    · exact workers_proceed ..
    · exact workers_giveUp ..

@[simp] theorem workers_fetchAgain (h : HolderId) (r : Reading) :
    (fetchAgain (τ := τ) h r g).1.workers = g.workers := by
  rw [fetchAgain]
  split
  · rfl
  · exact workers_proceed ..

theorem workers_resume (p : Purpose) (h : HolderId) (o : Outcome) :
    (resume (τ := τ) p h o g).1.workers = g.workers := by
  unfold resume
  split <;> (try split) <;> simp

theorem workers_beginLine (line : String) :
    (beginLine (τ := τ) line g).1.workers = g.workers := by
  simp only [beginLine]
  split
  · rfl
  · simp [Gateway.count]
  · split
    · next he =>
      have hw := Gateway.workers_evict he
      exact hw
    · next he =>
      have hw := Gateway.workers_evict he
      exact hw

theorem workers_sweep (urls : List String) :
    (sweep (τ := τ) g urls).1.workers = g.workers := by
  cases urls with
  | nil => rfl
  | cons url urls =>
    rw [sweep]
    split
    · next he => exact Gateway.workers_evict he
    · next he => exact Gateway.workers_evict he

/-- But for asking for a permit, a step leaves the permits alone. -/
theorem workers_step [Remote ρ τ σ] (h : act.step id g = some (g', act')) :
    g'.workers = g.workers ∨
      g'.workers = g.workers.request id ∧ ∃ line, act' = .queueing line := by
  cases ha : act.access? with
  | some a =>
    obtain ⟨n, hstep, -⟩ := step_access ha h
    exact .inl hstep.workers
  | none =>
    cases act with
    | beginning op =>
      have hg : (begin id op g).1 = g' := congrArg Prod.fst (Option.some.inj h)
      subst hg
      cases op with
      | answer line => exact .inl (workers_beginLine line)
      | submit line =>
        cases h
        exact .inr ⟨rfl, line, rfl⟩
      | evict url => exact .inl (workers_sweep [url])
      | invalidate h₀ => exact .inl (Gateway.workers_invalidate g h₀)
      | access | drain | openSession | readSession | endSession => exact .inl rfl
    | returning p h₀ o =>
      have hg : (resume (τ := τ) p h₀ o g).1 = g' := congrArg Prod.fst (Option.some.inj h)
      subst hg
      exact .inl (workers_resume p h₀ o)
    | sweeping urls =>
      have hg : (sweep (τ := τ) g urls).1 = g' := congrArg Prod.fst (Option.some.inj h)
      subst hg
      exact .inl (workers_sweep urls)
    | opening | reading | ending =>
      cases h
      exact .inl rfl
    | queueing | finished => cases h
    | requesting | accessing | clearing => cases ha

end Activity

namespace Task

variable {g g' : Gateway ρ σ} {id : TaskId} {t t' : Task τ σ}

/-- A task withdraws no permits. -/
theorem withdrawn_step [Remote ρ τ σ] (h : t.step id g = some (g', t')) :
    g'.workers.withdrawn = g.workers.withdrawn := by
  rw [step] at h
  split at h
  · rw [takeUp] at h
    split at h
    · cases h
      rfl
    · split at h
      · cases h
        rfl
      · cases h
  · rw [Option.map_eq_some_iff] at h
    obtain ⟨⟨g₁, act⟩, hact, h⟩ := h
    have hsame : g₁.workers.withdrawn = g.workers.withdrawn := by
      rcases Activity.workers_step hact with hw | ⟨hw, -⟩ <;> rw [hw]
      rfl
    simp only [settle] at h
    split at h <;> cases h <;> exact hsame

theorem withdrawn_abandon (id : TaskId) (t : Task τ σ) (g : Gateway ρ σ) :
    (t.abandon id g).workers.withdrawn = g.workers.withdrawn := by
  obtain ⟨act, employed⟩ := t
  cases act <;> rfl

end Task

end AttributeGateway
