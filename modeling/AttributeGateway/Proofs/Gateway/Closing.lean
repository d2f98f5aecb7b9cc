import AttributeGateway.Proofs.Gateway.Connecting

/-!
# Closing a holder

Whoever closes a holder has its lock alone: the reads that share it have ended, and those that wait
for it find the holder closed. The session passes into the hands of the closing task, which goes on
to close it. A task that has gone on behind that leaves the holder done with: it is closed, and its
session is in nobody's hands any more.

* `Activity.loose?`, `Activity.outcome?` — the session in the hands of a task, and what an access
  has come to.
* `System.Sincere` — no access ends because a session was lost; `sincere_of_run`.
* `System.Done` — the holder is done with; `ClosingBy.of_run` says that every task that closes it
  gets there, unless it is dropped.
* `System.Held` — a session that its holder has, or the task that closes the holder;
  `Disciplined.held_of_connected`.
-/

namespace AttributeGateway

/-! ### What a task has in its hands -/

/-- The session that an access is closing. -/
def Access.loose? {τ σ : Type} (a : Access τ σ) : Option σ :=
  match a.stage with
  | .ending x => some x
  | _ => none

namespace Activity

variable {ρ τ σ : Type} {g : Gateway ρ σ} {act : Activity τ σ}
  {next : Gateway ρ σ × Activity τ σ}

/-- The session that is in the hands of a task rather than a holder's. -/
def loose? : Activity τ σ → Option σ
  | .beginning (.readSession x _ _) | .beginning (.endSession x) | .reading x _ _ | .ending x
  | .finished (.opened x) => some x
  | .requesting _ a | .accessing a | .clearing a _ => a.loose?
  | _ => none

/-- What an access has come to, while it is known. -/
def outcome? : Activity τ σ → Option Outcome
  | .returning _ _ o | .finished (.accessed o) => some o
  | _ => none

theorem Turn.outcome? {h : HolderId} {r : Reading} {inside : Bool} {failed : Fault → Prop}
    (ht : Turn h r inside failed g next) : next.2.outcome? = none := by
  cases ht <;> rfl

/-- A step without an access ends none. -/
theorem Quiet.outcome? [Remote ρ τ σ] {id : TaskId} (hq : Quiet id g act next) :
    next.2.outcome? = none := by
  cases hq with
  | resume hr =>
    cases hr with
    | goOn _ ht | settle _ ht => exact ht.outcome?
    | _ => rfl
  | search ha => rcases ha with ⟨found, rfl⟩ | ⟨error, rfl⟩ <;> rfl
  | read hr => rcases hr with ⟨v, rfl⟩ | ⟨error, rfl⟩ <;> rfl
  | ended hr => rcases hr with rfl | ⟨error, rfl⟩ <;> rfl
  | _ => rfl

end Activity

namespace System

variable {ρ τ σ : Type} [Remote ρ τ σ] {s s' u : System ρ τ σ} {id : TaskId} {e : Event ρ σ}
  {es : List (Event ρ σ)} {a : Access τ σ}

/-! ### No session is lost -/

/-- No access has failed for a reason of the gateway's own. -/
def Sincere (s : System ρ τ σ) : Prop :=
  ∀ id t o, s.task? id = some t → t.activity.outcome? = some o →
    ∀ reason, o ≠ .failed (.internal reason)

/-- Under the lock a session that was found is still there. -/
theorem Disciplined.outcome_ne (hs : Disciplined s) (ha : s.access? id = some a)
    {g : Gateway ρ σ} {o : Outcome} (hstep : a.Step id s.gateway g (.inr o)) (reason : String) :
    o ≠ .failed (.internal reason) := by
  cases hstep with
  | lose hst haim hk =>
    have hf := hs.fits ha
    rw [hst] at hf
    obtain ⟨x, hx⟩ := hf
    exact absurd hx (hk x)
  | @read x bean attributeName hst haim =>
    rw [Access.readOutcome]
    split
    · nofun
    · next error _ => cases error <;> nofun
  | _ => nofun

theorem Sincere.after? (hs : Sincere s) (hd : Disciplined s) (h : s.after? e = some s') :
    Sincere s' := by
  intro id t' o ht' ho
  rcases task?_cases h ht' with hsame | ⟨t, -, ht, hstep⟩ | ⟨op, -, rfl, -⟩
  · exact hs id t' o hsame ho
  · rcases Task.step_cases hstep with ⟨line, -, -, hact | hact⟩ | ⟨g₁, hact, -⟩
    · rw [hact] at ho
      cases ho
    · rw [hact] at ho
      cases ho
    · cases ha : t.activity.access? with
      | some a =>
        obtain ⟨n, hn, hon⟩ := Activity.step_access ha hact
        have haccess := (access?_of_task? ht).trans ha
        rw [hon] at ho
        -- Only an access that ends has an outcome.
        cases n with
        | inl b =>
          cases hact' : t.activity <;> rw [hact'] at ha ho <;> cases ha <;> cases ho
        | inr o' =>
          have hne := hd.outcome_ne haccess hn
          cases hact' : t.activity <;> rw [hact'] at ha ho <;> cases ha <;> cases ho <;>
            exact hne
      | none =>
        have hnone := (Activity.quiet_of_step ha hact).outcome?
        rw [hnone] at ho
        cases ho
  · cases ho

theorem sincere_of_run {remote : ρ} {workers : Permits} (hr : Run (start remote workers) es s) :
    Sincere s := by
  have hI : Disciplined s ∧ Sincere s := by
    refine hr.preserves (I := fun u => Disciplined u ∧ Sincere u) ?_
      ⟨disciplined_start remote workers, fun _ _ _ ht => by cases ht⟩
    intro u e u' hI h
    exact ⟨hI.1.change (change_of_after? h), hI.2.after? hI.1 h⟩
  exact hI.2

/-! ### Closing a holder -/

/-- A task is closing a session that a holder had. -/
def EndingBy (h : HolderId) (x : σ) (s : System ρ τ σ) (id : TaskId) : Prop :=
  ∃ a, s.access? id = some a ∧ a.holder = h ∧ a.stage = .ending x

/-- A holder that is closed, and whose session nobody is about to close. -/
def Done (h : HolderId) (s : System ρ τ σ) : Prop :=
  s.gateway.link h = .closed ∧ ∀ id x, ¬ EndingBy h x s id

/-- A task is closing a holder. -/
def ClosingBy (h : HolderId) (s : System ρ τ σ) (id : TaskId) : Prop :=
  ∃ a, s.access? id = some a ∧ a.holder = h ∧ a.aim = .close

/-- An access that closes a holder and ends leaves it done with. -/
theorem Disciplined.done_of_step (hs : Disciplined s) (ha : s.access? id = some a)
    (haim : a.aim = .close) {g : Gateway ρ σ} {o : Outcome}
    (hstep : a.Step id s.gateway g (.inr o))
    (hlink : s'.gateway.link a.holder = g.link a.holder) (hn : s'.access? id = none)
    (ho : ∀ id', id' ≠ id → s'.access? id' = s.access? id') : Done a.holder s' := by
  have hfits := hs.fits ha
  have hsuits := hs.suits ha
  -- Who ends the access has had the lock alone.
  have hdone (hl : (id, .exclusive) ∈ (s.gateway.lock a.holder).held)
      (hk : g.link a.holder = .closed) : Done a.holder s' := by
    refine ⟨hlink.trans hk, ?_⟩
    rintro id' x ⟨b, hb, hbh, hst⟩
    by_cases hid : id' = id
    · rw [hid, hn] at hb
      cases hb
    · rw [ho id' hid] at hb
      exact hid (hs.eq_of_holds hl hb hbh (by rw [hst]; trivial))
  cases hstep with
  | shut hst _ hl hk =>
    refine hdone hl ?_
    rw [Gateway.link_modifyLock, Gateway.link_setLink (Gateway.made_of_mem_held hl)]
  | finish hst =>
    rw [hst] at hfits
    refine hdone (hs.holds ha (by rw [hst]; trivial) (by rw [hst]; rfl)) ?_
    exact (Gateway.link_modifyLock _ _ _ _).trans hfits
  | refuse hst hl hk =>
    rcases hst with ⟨hst, -⟩ | ⟨-, hne, -⟩
    · rw [hst] at hsuits
      exact absurd haim hsuits
    · exact absurd haim hne
  | miss _ hne => exact absurd haim hne
  | fail hst =>
    rw [hst] at hsuits
    exact absurd haim hsuits
  | lose _ haim' | read _ haim' =>
    rw [haim] at haim'
    cases haim'
  | join hst =>
    rcases hst with hst | ⟨x, hst⟩ <;> rw [hst] at hsuits
    · exact absurd haim hsuits
    · obtain ⟨bean, attributeName, hfetch⟩ := hsuits
      rw [haim] at hfetch
      cases hfetch

/-- Who begins to close a session has just closed the holder that had it. -/
theorem ending_of_step {g : Gateway ρ σ} {b : Access τ σ} {x : σ}
    (hstep : a.Step id s.gateway g (.inl b)) (hb : b.stage = .ending x) :
    s.gateway.link a.holder = .connected x ∧ g.link a.holder = .closed := by
  generalize hn : (Sum.inl b : Access.Next τ σ) = n at hstep
  cases hstep with
  | drop hst haim hl hk =>
    cases hn
    cases hb
    exact ⟨hk, Gateway.link_setLink (Gateway.made_of_mem_held hl) _⟩
  | _ =>
    cases hn
    try cases hb

/-- A holder that is done with stays so. -/
theorem Done.after? {h : HolderId} (hd : Done h s) (hs : Disciplined s)
    (he : s.after? e = some s') : Done h s' := by
  refine ⟨hs.closed_after? he hd.1, ?_⟩
  rintro id' x ⟨b, hb, hbh, hst⟩
  cases change_of_after? he with
  | @move id a g n _ ha hstep hg hn ho =>
    by_cases hid : id' = id
    · subst hid
      rw [hn, Sum.getLeft?_eq_some_iff] at hb
      subst hb
      have hk := (ending_of_step hstep hst).1
      rw [← hstep.same.1, hbh, hd.1] at hk
      cases hk
    · exact hd.2 id' x ⟨b, (ho id' hid).symm.trans hb, hbh, hst⟩
  | @drop id a _ ha hg hn ho =>
    by_cases hid : id' = id
    · rw [hid, hn] at hb
      cases hb
    · exact hd.2 id' x ⟨b, (ho id' hid).symm.trans hb, hbh, hst⟩
  | quiet remote hg ho he =>
    rcases ho id' with hid | ⟨-, hid⟩
    · exact hd.2 id' x ⟨b, hid.symm.trans hb, hbh, hst⟩
    · rw [hid b hb] at hst
      cases hst

/-- A task that has been dropped. -/
def Gone (s : System ρ τ σ) (id : TaskId) : Prop := s.task? id = none ∧ id < s.tasks.length

theorem Gone.after? (hg : Gone s id) (he : s.after? e = some s') : Gone s' id := by
  obtain ⟨hnone, hlt⟩ := hg
  refine ⟨?_, Nat.lt_of_lt_of_le hlt (length_tasks_le he)⟩
  cases ht : s'.task? id with
  | none => rfl
  | some t' =>
    rcases task?_cases he ht with hsame | ⟨t, -, ht, -⟩ | ⟨op, -, -, hid⟩
    · rw [hnone] at hsame
      cases hsame
    · rw [hnone] at ht
      cases ht
    · exact absurd hid (Nat.ne_of_lt hlt)

omit [Remote ρ τ σ] in
theorem gone_abandon {t : Task τ σ} (ht : s.task? id = some t) : Gone (s.abandon id) id := by
  rcases abandon_cases s id with ⟨hnone, -⟩ | ⟨t', ht', hs⟩
  · rw [hnone] at ht
    cases ht
  · have htasks : (s.abandon id).tasks = s.tasks.set id none := by rw [hs]
    refine ⟨?_, ?_⟩
    · rw [task?_of_set ht htasks, if_pos rfl]
    · rw [htasks, List.length_set]
      exact lt_of_task? ht

/-- A task that closes a holder goes on until the holder is done with, unless it is dropped. -/
theorem ClosingBy.after? {h : HolderId} (hc : ClosingBy h s id) (hs : Disciplined s)
    (he : s.after? e = some s') : ClosingBy h s' id ∨ Gone s' id ∨ Done h s' := by
  obtain ⟨a, ha, rfl, haim⟩ := hc
  cases change_of_after? he with
  | @move id₁ a₁ g n _ ha₁ hstep hg hn ho =>
    by_cases hid : id = id₁
    · subst hid
      rw [ha] at ha₁
      cases ha₁
      cases n with
      | inl b =>
        obtain ⟨hh, hb⟩ := hstep.same
        exact .inl ⟨b, hn, hh, hb.trans haim⟩
      | inr o =>
        have hlink : s'.gateway.link a.holder = g.link a.holder := by
          rw [hg]
          rfl
        exact .inr (.inr (hs.done_of_step ha haim hstep hlink hn ho))
    · exact .inl ⟨a, (ho id hid).trans ha, rfl, haim⟩
  | @drop id₁ a₁ _ ha₁ hg hn ho =>
    by_cases hid : id = id₁
    · subst hid
      cases he
      obtain ⟨t, ht, -⟩ := Option.bind_eq_some_iff.1 ha
      exact .inr (.inl (gone_abandon ht))
    · exact .inl ⟨a, (ho id hid).trans ha, rfl, haim⟩
  | quiet remote hg ho he =>
    rcases ho id with hid | ⟨hid, -⟩
    · exact .inl ⟨a, hid.trans ha, rfl, haim⟩
    · rw [hid] at ha
      cases ha

theorem ClosingBy.of_run {h : HolderId} (hc : ClosingBy h s id) (hs : Disciplined s)
    (hr : Run s es s') : ClosingBy h s' id ∨ Gone s' id ∨ Done h s' := by
  induction hr with
  | nil => exact .inl hc
  | snoc hr he ih =>
    have hd := hr.preserves (fun hs hu => Disciplined.change hs (change_of_after? hu)) hs
    rcases ih with hc | hg | hdone
    · exact hc.after? hd he
    · exact .inr (.inl (hg.after? he))
    · exact .inr (.inr (hdone.after? hd he))

/-- A session that its holder has, or that a task which closes the holder is about to close. -/
def Held (h : HolderId) (x : σ) (s : System ρ τ σ) : Prop :=
  s.gateway.link h = .connected x ∨ ∃ id, EndingBy h x s id

/-- The session of a holder stays with it, or passes to the task that closes the holder. -/
theorem Disciplined.held_of_connected {h : HolderId} {x : σ} (hs : Disciplined s)
    (hk : s.gateway.link h = .connected x) (he : s.after? e = some s') : Held h x s' := by
  have hsame : s'.gateway.link h = s.gateway.link h → Held h x s' := fun hl => .inl (hl.trans hk)
  have hc := change_of_after? he
  have hmoves := ((hs.progress hc h).moves).1
  cases hc with
  | @move id a g n _ ha hstep hg hn hother =>
    have hlink : ∀ h, s'.gateway.link h = g.link h := by
      intro h
      rw [hg]
      rfl
    by_cases hh : h = a.holder
    · subst hh
      rw [hk] at hmoves
      generalize hk' : s'.gateway.link a.holder = k at hmoves
      cases hmoves with
      | stay => exact .inl hk'
      | close =>
        rcases hstep.closes ((hlink _).symm.trans hk') with
          hk₁ | ⟨-, -, ⟨y, b, hy, rfl, hst⟩ | ⟨hno, -⟩⟩
        · cases hk.symm.trans hk₁
        · cases hk.symm.trans hy
          exact .inr ⟨id, b, hn, hstep.same.1, hst⟩
        · exact absurd hk (hno x)
    · exact hsame ((hlink h).trans (hstep.touches.link h hh))
  | @drop id a _ ha hg =>
    refine hsame ?_
    rw [hg]
    exact Gateway.link_modifyLock s.gateway a.holder h (·.leave id)
  | quiet remote hg => exact hsame (hg.link h)

end System

end AttributeGateway
