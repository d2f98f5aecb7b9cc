import AttributeGateway.Proofs.Gateway.Runs

/-!
# The discipline of the lock

Who looks at the link of a holder holds the lock of that holder, and who changes the link holds it
alone. What has been seen under the lock therefore stays true for as long as the lock is held: while
a session is being opened the holder is disconnected, while an attribute is read it is connected,
and while a session is being closed it is closed.

`System.Disciplined` is the invariant, kept by every event (`Disciplined.change`) and so by every
run (`disciplined_of_run`), whatever the remote side does, in whatever order tasks take their steps,
and wherever tasks are dropped.
-/

namespace AttributeGateway

variable {ρ τ σ : Type} {id id' : TaskId}

namespace Stage

/-- How the lock is held at a stage, or has been asked for. -/
def mode? : Stage τ σ → Option LockMode
  | .beginning | .upgrading => none
  | .sharing | .guarding | .reading _ => some .shared
  | .excluding | .establishing _ | .ending _ => some .exclusive

/-- Whether the lock is held at a stage; at the others it may still be waited for. -/
def Holds : Stage τ σ → Prop
  | .establishing _ | .guarding | .reading _ | .ending _ => True
  | _ => False

/-- What has been seen of the link, or made of it, at a stage. -/
def Fits : Stage τ σ → Link σ → Prop
  | .establishing _, k => k = .disconnected
  | .guarding, k => ∃ x, k = .connected x
  | .reading x, k => k = .connected x
  | .ending _, k => k = .closed
  | _, _ => True

/-- The aims that lead to a stage. -/
def Suits : Stage τ σ → Aim → Prop
  | .ending _, aim => aim = .close
  | .reading _, aim => ∃ bean attributeName, aim = .fetch bean attributeName
  | .sharing, aim | .upgrading, aim | .establishing _, aim | .guarding, aim => aim ≠ .close
  | _, _ => True

/-- Without the lock nothing has been seen of the link. -/
theorem fits_of_not_holds {stage : Stage τ σ} (h : ¬ stage.Holds) (k : Link σ) :
    stage.Fits k := by
  cases stage <;> first | trivial | exact absurd trivial h

end Stage

namespace System

variable [Remote ρ τ σ] {s s' : System ρ τ σ} {h : HolderId}

/-! ### The invariant -/

/-- The tasks keep the discipline of the locks. -/
structure Disciplined (s : System ρ τ σ) : Prop where
  /-- Every lock is orderly. -/
  orderly : ∀ h, (s.gateway.lock h).Orderly
  /-- Who has or wants a lock has an access to its holder, at a stage of that mode. -/
  entry : ∀ {h id m}, (id, m) ∈ (s.gateway.lock h).entries →
    ∃ a, s.access? id = some a ∧ a.holder = h ∧ a.stage.mode? = some m
  /-- Who looks at a link has the lock. -/
  holds : ∀ {id a m}, s.access? id = some a → a.stage.Holds → a.stage.mode? = some m →
    (id, m) ∈ (s.gateway.lock a.holder).held
  /-- What has been seen of a link is still true. -/
  fits : ∀ {id a}, s.access? id = some a → a.stage.Fits (s.gateway.link a.holder)
  /-- Every access stands at a stage that its aim leads to. -/
  suits : ∀ {id a}, s.access? id = some a → a.stage.Suits a.aim

omit [Remote ρ τ σ] in
/-- A gateway without holders is disciplined. -/
theorem disciplined_start (remote : ρ) (workers : Permits) :
    Disciplined (start remote workers : System ρ τ σ) where
  orderly _ := Lock.orderly_empty
  entry h := by cases h
  holds h := by cases h
  fits h := by cases h
  suits h := by cases h

omit [Remote ρ τ σ] in
/-- A task that has a lock alone is the only one that has seen anything of the link. -/
theorem Disciplined.eq_of_holds (hs : Disciplined s) {a : Access τ σ}
    (hid : (id, .exclusive) ∈ (s.gateway.lock h).held) (ha : s.access? id' = some a)
    (hh : a.holder = h) (hholds : a.stage.Holds) : id' = id := by
  obtain ⟨m, hm⟩ : ∃ m, a.stage.mode? = some m := by
    cases hst : a.stage <;> rw [hst] at hholds <;>
      first | exact ⟨_, rfl⟩ | exact hholds.elim
  have he := hs.holds ha hholds hm
  rw [hh] at he
  exact ((hs.orderly h).eq_of_alone hid he).1

omit [Remote ρ τ σ] in
/-- The discipline is kept by a task whose operation on the lock serves the others, and that changes
the link only if it has the lock alone. -/
theorem Disciplined.update (hs : Disciplined s)
    (ho : ∀ id', id' ≠ id → s'.access? id' = s.access? id')
    (ht : s.gateway.Touches h s'.gateway)
    (hold : ∀ a, s.access? id = some a → a.holder = h)
    (hl : Lock.Serves id (s.gateway.lock h) (s'.gateway.lock h))
    (hk : s'.gateway.link h = s.gateway.link h ∨ (id, .exclusive) ∈ (s.gateway.lock h).held)
    (hentry : ∀ m, (id, m) ∈ (s'.gateway.lock h).entries →
      ∃ a, s'.access? id = some a ∧ a.stage.mode? = some m)
    (hnew : ∀ a, s'.access? id = some a → a.holder = h ∧
      (∀ m, a.stage.Holds → a.stage.mode? = some m → (id, m) ∈ (s'.gateway.lock h).held) ∧
      a.stage.Fits (s'.gateway.link h) ∧ a.stage.Suits a.aim) :
    Disciplined s' where
  orderly h' := by
    by_cases hh : h' = h
    · rw [hh]
      exact hl.orderly
    · rw [ht.lock h' hh]
      exact hs.orderly h'
  entry {h' id' m} he := by
    by_cases hid : id' = id
    · subst hid
      by_cases hh : h' = h
      · subst hh
        obtain ⟨a, ha, hm⟩ := hentry m he
        exact ⟨a, ha, (hnew a ha).1, hm⟩
      · -- A task that has its access here has no entry elsewhere.
        rw [ht.lock h' hh] at he
        obtain ⟨a, ha, hah, -⟩ := hs.entry he
        exact absurd (hah.symm.trans (hold a ha)) hh
    · rw [ho id' hid]
      by_cases hh : h' = h
      · subst hh
        exact hs.entry (hl.entry hid he)
      · rw [ht.lock h' hh] at he
        exact hs.entry he
  holds {id' a m} ha hholds hm := by
    by_cases hid : id' = id
    · subst hid
      obtain ⟨hh, hheld, -⟩ := hnew a ha
      rw [hh]
      exact hheld m hholds hm
    · rw [ho id' hid] at ha
      have he := hs.holds ha hholds hm
      by_cases hh : a.holder = h
      · rw [hh] at he ⊢
        exact hl.keeps hid he
      · rw [ht.lock _ hh]
        exact he
  fits {id' a} ha := by
    by_cases hid : id' = id
    · subst hid
      obtain ⟨hh, -, hfits, -⟩ := hnew a ha
      rw [hh]
      exact hfits
    · rw [ho id' hid] at ha
      have hf := hs.fits ha
      by_cases hh : a.holder = h
      · rcases hk with hk | hk
        · rw [hh, hk, ← hh]
          exact hf
        · exact Stage.fits_of_not_holds
            (fun hholds => hid (hs.eq_of_holds hk ha hh hholds)) _
      · rw [ht.link _ hh]
        exact hf
  suits {id' a} ha := by
    by_cases hid : id' = id
    · subst hid
      exact (hnew a ha).2.2.2
    · rw [ho id' hid] at ha
      exact hs.suits ha

omit [Remote ρ τ σ] in
/-- The discipline is kept when no lock and no link changes and accesses are only begun. -/
theorem Disciplined.quiet (hs : Disciplined s)
    (hlock : ∀ h, s'.gateway.lock h = s.gateway.lock h)
    (hlink : ∀ h, s'.gateway.link h = s.gateway.link h)
    (ho : ∀ id, s'.access? id = s.access? id ∨
      s.access? id = none ∧ ∀ a, s'.access? id = some a → a.stage = .beginning) :
    Disciplined s' where
  orderly h := by
    rw [hlock]
    exact hs.orderly h
  entry {h id m} he := by
    rw [hlock] at he
    obtain ⟨a, ha, hrest⟩ := hs.entry he
    rcases ho id with hid | ⟨hid, -⟩
    · exact ⟨a, hid.trans ha, hrest⟩
    · rw [hid] at ha
      cases ha
  holds {id a m} ha hholds hm := by
    rw [hlock]
    rcases ho id with hid | ⟨-, hid⟩
    · exact hs.holds (hid.symm.trans ha) hholds hm
    · rw [hid a ha] at hholds
      exact hholds.elim
  fits {id a} ha := by
    rw [hlink]
    rcases ho id with hid | ⟨-, hid⟩
    · exact hs.fits (hid.symm.trans ha)
    · rw [hid a ha]
      trivial
  suits {id a} ha := by
    rcases ho id with hid | ⟨-, hid⟩
    · exact hs.suits (hid.symm.trans ha)
    · rw [hid a ha]
      trivial

/-! ### One operation on a lock -/

section
variable {a : Access τ σ} {stage : Stage τ σ}

omit [Remote ρ τ σ] in
/-- A task has an entry only in the mode of its stage. -/
theorem Disciplined.mode_of_entry (hs : Disciplined s) (ha : s.access? id = some a)
    {m : LockMode} (he : (id, m) ∈ (s.gateway.lock h).entries) : a.stage.mode? = some m := by
  obtain ⟨b, hb, -, hm⟩ := hs.entry he
  rw [ha] at hb
  cases hb
  exact hm

omit [Remote ρ τ σ] in
/-- Giving the lock back. -/
theorem Disciplined.leaves (hs : Disciplined s) (ha : s.access? id = some a)
    (ho : ∀ id', id' ≠ id → s'.access? id' = s.access? id')
    (ht : s.gateway.Touches a.holder s'.gateway)
    (hlock : s'.gateway.lock a.holder = (s.gateway.lock a.holder).leave id)
    (hk : s'.gateway.link a.holder = s.gateway.link a.holder ∨
      (id, .exclusive) ∈ (s.gateway.lock a.holder).held)
    (hn : ∀ b, s'.access? id = some b →
      b.holder = a.holder ∧ b.stage = .upgrading ∧ b.aim ≠ .close) : Disciplined s' := by
  refine hs.update ho ht (fun b hb => ?_) ?_ hk (fun m he => ?_) fun b hb => ?_
  · rw [ha] at hb
    cases hb
    rfl
  · rw [hlock]
    exact (hs.orderly _).serves_leave id
  · rw [hlock] at he
    exact absurd he Lock.not_mem_entries_leave
  · obtain ⟨hh, hst, haim⟩ := hn b hb
    rw [hst]
    exact ⟨hh, fun _ hholds => hholds.elim, trivial, haim⟩

omit [Remote ρ τ σ] in
/-- Asking for the lock. -/
theorem Disciplined.asks (hs : Disciplined s) (ha : s.access? id = some a)
    (ho : ∀ id', id' ≠ id → s'.access? id' = s.access? id')
    (ht : s.gateway.Touches a.holder s'.gateway) {m : LockMode} (hnone : a.stage.mode? = none)
    (hlock : s'.gateway.lock a.holder = (s.gateway.lock a.holder).request id m ∨
      s'.gateway.lock a.holder = s.gateway.lock a.holder)
    (hk : s'.gateway.link a.holder = s.gateway.link a.holder)
    (hn : s'.access? id = some { a with stage }) (hm : stage.mode? = some m)
    (hnot : ¬ stage.Holds) (hsuits : stage.Suits a.aim) : Disciplined s' := by
  -- A task that has not asked yet has no entry.
  have hno : ∀ m, (id, m) ∉ (s.gateway.lock a.holder).entries := by
    intro m he
    have hsome := hs.mode_of_entry ha he
    rw [hnone] at hsome
    cases hsome
  refine hs.update ho ht (fun b hb => ?_) ?_ (.inl hk) (fun m' he => ?_) fun b hb => ?_
  · rw [ha] at hb
    cases hb
    rfl
  · rcases hlock with hlock | hlock <;> rw [hlock]
    · exact (hs.orderly _).serves_request hno m
    · exact (hs.orderly _).serves
  · rcases hlock with hlock | hlock <;> rw [hlock] at he
    · rcases Lock.mem_entries_request.1 he with he | he
      · exact absurd he (hno m')
      · cases he
        exact ⟨_, hn, hm⟩
    · exact absurd he (hno m')
  · rw [hn] at hb
    cases hb
    exact ⟨rfl, fun _ hholds => absurd hholds hnot, Stage.fits_of_not_holds hnot _, hsuits⟩

omit [Remote ρ τ σ] in
/-- Going on under the lock. -/
theorem Disciplined.stays (hs : Disciplined s) (ha : s.access? id = some a)
    (ho : ∀ id', id' ≠ id → s'.access? id' = s.access? id')
    (ht : s.gateway.Touches a.holder s'.gateway) {m : LockMode}
    (hheld : (id, m) ∈ (s.gateway.lock a.holder).held)
    (hlock : s'.gateway.lock a.holder = s.gateway.lock a.holder)
    (hk : s'.gateway.link a.holder = s.gateway.link a.holder ∨ m = .exclusive)
    (hn : s'.access? id = some { a with stage }) (hm : stage.mode? = some m)
    (hfits : stage.Fits (s'.gateway.link a.holder)) (hsuits : stage.Suits a.aim) :
    Disciplined s' := by
  refine hs.update ho ht (fun b hb => ?_) ?_ (hk.imp_right fun hx => by rwa [hx] at hheld)
    (fun m' he => ?_) fun b hb => ?_
  · rw [ha] at hb
    cases hb
    rfl
  · rw [hlock]
    exact (hs.orderly _).serves
  · rw [hlock] at he
    rw [(hs.orderly _).mode_eq he (Lock.mem_entries_of_held hheld)]
    exact ⟨_, hn, hm⟩
  · rw [hn] at hb
    cases hb
    refine ⟨rfl, fun m' _ hm' => ?_, hfits, hsuits⟩
    rw [hm] at hm'
    cases hm'
    rw [hlock]
    exact hheld

omit [Remote ρ τ σ] in
/-- Going on to share a lock that was held alone, with a session in the link. -/
theorem Disciplined.shares (hs : Disciplined s) (ha : s.access? id = some a)
    (ho : ∀ id', id' ≠ id → s'.access? id' = s.access? id')
    (ht : s.gateway.Touches a.holder s'.gateway)
    (hheld : (id, .exclusive) ∈ (s.gateway.lock a.holder).held)
    (hlock : s'.gateway.lock a.holder = (s.gateway.lock a.holder).downgrade id)
    (hk : ∃ x, s'.gateway.link a.holder = .connected x)
    (hn : s'.access? id = some { a with stage := .guarding }) (haim : a.aim ≠ .close) :
    Disciplined s' := by
  refine hs.update ho ht (fun b hb => ?_) ?_ (.inr hheld) (fun m' he => ?_) fun b hb => ?_
  · rw [ha] at hb
    cases hb
    rfl
  · rw [hlock]
    exact (hs.orderly _).serves_downgrade hheld
  · rw [hlock] at he
    rw [(hs.orderly _).mode_of_downgrade hheld he]
    exact ⟨_, hn, rfl⟩
  · rw [hn] at hb
    cases hb
    refine ⟨rfl, fun m' _ hm' => ?_, hk, haim⟩
    cases hm'
    rw [hlock]
    exact (hs.orderly _).mem_held_downgrade hheld

end

/-! ### The invariant is kept -/

/-- A step of an access keeps the discipline. -/
theorem Disciplined.move (hs : Disciplined s) {a : Access τ σ} {g : Gateway ρ σ}
    {n : Access.Next τ σ} (ha : s.access? id = some a) (hstep : a.Step id s.gateway g n)
    (ht : s.gateway.Touches a.holder s'.gateway)
    (hlock : s'.gateway.lock a.holder = g.lock a.holder)
    (hlink : s'.gateway.link a.holder = g.link a.holder) (hn : s'.access? id = n.getLeft?)
    (ho : ∀ id', id' ≠ id → s'.access? id' = s.access? id') : Disciplined s' := by
  have hsuits := hs.suits ha
  have hleave (g₁ : Gateway ρ σ) (hg₁ : g₁.lock a.holder = s.gateway.lock a.holder)
      (hl : s'.gateway.lock a.holder = (g₁.modifyLock a.holder (·.leave id)).lock a.holder) :
      s'.gateway.lock a.holder = (s.gateway.lock a.holder).leave id := by
    rw [hl, Gateway.lock_modifyLock_leave, hg₁]
  have hended : s'.access? id = none → ∀ b, s'.access? id = some b →
      b.holder = a.holder ∧ b.stage = .upgrading ∧ b.aim ≠ .close := by
    intro hn b hb
    rw [hn] at hb
    cases hb
  cases hstep with
  | askToShare hst haim =>
    refine hs.asks ha ho ht (by rw [hst]; rfl) ?_ (by rw [hlink]; simp) hn rfl nofun haim
    rw [hlock]
    exact Gateway.lock_modifyLock_cases _ _ _
  | askToExclude hst =>
    refine hs.asks ha ho ht ?_ ?_ (by rw [hlink]; simp) hn rfl nofun trivial
    · rcases hst with ⟨hst, -⟩ | hst <;> rw [hst] <;> rfl
    · rw [hlock]
      exact Gateway.lock_modifyLock_cases _ _ _
  | find hst hl hk =>
    rw [hst] at hsuits
    exact hs.stays ha ho ht hl hlock (.inl hlink) hn rfl ⟨_, hlink.trans hk⟩ hsuits
  | giveWay hst hl hk =>
    refine hs.leaves ha ho ht (hleave _ rfl hlock) (.inl (by rw [hlink]; simp)) fun b hb => ?_
    rw [hn] at hb
    cases hb
    rw [hst] at hsuits
    exact ⟨rfl, rfl, hsuits⟩
  | refuse hst hl hk | lose hst haim hk | join hst haim =>
    exact hs.leaves ha ho ht (hleave _ rfl hlock) (.inl (by rw [hlink]; simp)) (hended hn)
  | drop hst haim hl hk =>
    refine hs.stays ha ho ht hl (by rw [hlock]; simp) (.inr rfl) hn rfl ?_ haim
    rw [hlink]
    exact Gateway.link_setLink (Gateway.made_of_mem_held hl) _
  | shut hst haim hl hk =>
    exact hs.leaves ha ho ht (hleave _ (by simp) hlock) (.inr hl) (hended hn)
  | share hst haim hl hk =>
    refine hs.shares ha ho ht hl ?_ ⟨_, (hlink.trans (by simp)).trans hk⟩ hn haim
    rw [hlock, Gateway.lock_modifyLock (Gateway.made_of_mem_held hl)]
  | use hst haim hk =>
    have hl := hs.holds ha (by rw [hst]; trivial) (by rw [hst]; rfl)
    exact hs.stays ha ho ht hl hlock (.inl hlink) hn rfl (hlink.trans hk) ⟨_, _, haim⟩
  | attempt hst haim hl hk hr =>
    exact hs.stays ha ho ht hl hlock (.inr rfl) hn rfl (hlink.trans hk) haim
  | miss hst haim hl hk hr =>
    exact hs.leaves ha ho ht (hleave _ rfl hlock) (.inr hl) (hended hn)
  | @establish found x hst hr =>
    have hl := hs.holds ha (by rw [hst]; trivial) (by rw [hst]; rfl)
    have hmade := Gateway.made_of_mem_held hl
    rw [hst] at hsuits
    refine hs.shares ha ho ht hl ?_ ⟨x, ?_⟩ hn hsuits
    · have hmade' : (Access.established s.gateway found).Made a.holder := hmade
      rw [hlock, Gateway.lock_modifyLock (Gateway.made_setLink.2 hmade'), Gateway.lock_setLink]
      rfl
    · rw [hlink, Gateway.link_modifyLock]
      exact Gateway.link_setLink hmade _
  | fail hst hr | read hst haim | finish hst =>
    exact hs.leaves ha ho ht (hleave _ rfl hlock) (.inl (hlink.trans (by simp; rfl))) (hended hn)

/-- **Every event keeps the discipline.** -/
theorem Disciplined.change {e : Event ρ σ} (hs : Disciplined s) (hc : Change s e s') :
    Disciplined s' := by
  cases hc with
  | @move id a g n _ ha hstep hg hn ho =>
    have ht : g.Touches a.holder s'.gateway := by
      rw [hg]
      exact Gateway.touches_of_eq rfl rfl
    exact hs.move ha hstep (hstep.touches.trans ht) (by rw [hg]; rfl) (by rw [hg]; rfl) hn ho
  | @drop id a _ ha hg hn ho =>
    refine hs.leaves ha ho ?_ ?_ (.inl ?_) fun b hb => ?_
    · rw [hg]
      exact (Gateway.touches_modifyLock s.gateway a.holder (·.leave id)).trans
        (Gateway.touches_of_eq rfl rfl)
    · rw [hg]
      exact Gateway.lock_modifyLock_leave s.gateway a.holder id
    · rw [hg]
      exact Gateway.link_modifyLock s.gateway a.holder a.holder (·.leave id)
    · rw [hn] at hb
      cases hb
  | quiet remote hg ho he => exact hs.quiet hg.lock hg.link ho

/-- **Every run keeps the discipline.** -/
theorem disciplined_of_run {remote : ρ} {workers : Permits} {es : List (Event ρ σ)}
    (hr : Run (start remote workers) es s) : Disciplined s :=
  hr.preserves (fun hs hu => hs.change (change_of_after? hu)) (disciplined_start remote workers)

end System

end AttributeGateway
