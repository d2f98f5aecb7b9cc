import AttributeGateway.Proofs.Gateway.Discipline

/-!
# A holder is connected at most once

Any number of tasks may find a holder disconnected and race to connect it. Only the one that has the
lock alone begins an attempt, and it looks at the link again before it does. An attempt keeps the
lock until it has succeeded, has failed or is dropped; so attempts for one holder do not overlap,
and after a success or a close there is none.

* `Calls`, `System.calls`, `System.callsIn` — the attempts for a holder that begin, fail, succeed
  and are dropped, in an event and in a run; `Access.Step.counts_attempt_iff` says when one begins.
* `System.Progress` — what an event can do for the attempts for a holder.
* `connects_at_most_once` — in every run at most one attempt succeeds, and until then each one that
  begins fails or is dropped before the next.
-/

namespace AttributeGateway

variable {ρ τ σ : Type}

/-- The changes that the link of a holder goes through. -/
inductive Link.Moves : Link σ → Link σ → Prop where
  /-- The link stays as it is. -/
  | stay (k : Link σ) : Moves k k
  /-- A session has been opened. -/
  | connect (x : σ) : Moves .disconnected (.connected x)
  /-- A holder with a session is closed. -/
  | close (x : σ) : Moves (.connected x) .closed
  /-- A holder that never had a session is closed. -/
  | shut : Moves .disconnected .closed

theorem Link.moves_closed (k : Link σ) : Moves k .closed := by
  cases k with
  | disconnected => exact .shut
  | connected x => exact .close x
  | closed => exact .stay _

/-- How many attempts to open a session for a holder begin, fail, succeed and are dropped. -/
@[ext]
structure Calls where
  begun : Nat := 0
  failed : Nat := 0
  succeeded : Nat := 0
  dropped : Nat := 0
  deriving DecidableEq

instance : Add Calls where
  add c d := ⟨c.begun + d.begun, c.failed + d.failed, c.succeeded + d.succeeded,
    c.dropped + d.dropped⟩

namespace Calls

variable (c d : Calls)

@[simp] theorem begun_add : (c + d).begun = c.begun + d.begun := rfl

@[simp] theorem failed_add : (c + d).failed = c.failed + d.failed := rfl

@[simp] theorem succeeded_add : (c + d).succeeded = c.succeeded + d.succeeded := rfl

@[simp] theorem dropped_add : (c + d).dropped = c.dropped + d.dropped := rfl

theorem zero_add : {} + d = d :=
  Calls.ext (Nat.zero_add _) (Nat.zero_add _) (Nat.zero_add _) (Nat.zero_add _)

theorem add_assoc (e : Calls) : c + d + e = c + (d + e) :=
  Calls.ext (Nat.add_assoc ..) (Nat.add_assoc ..) (Nat.add_assoc ..) (Nat.add_assoc ..)

end Calls

/-- Whether a session is being opened. -/
def Stage.isOpening : Stage τ σ → Bool
  | .establishing _ => true
  | _ => false

/-- A session is opened having the lock alone. -/
theorem Stage.holds_of_isOpening {stage : Stage τ σ} (h : stage.isOpening) :
    stage.Holds ∧ stage.mode? = some .exclusive := by
  cases stage <;> first | exact ⟨trivial, rfl⟩ | cases h

/-- Whether a session is being opened and the remote side is about to give one. -/
def Access.opens [Remote ρ τ σ] (a : Access τ σ) (remote : ρ) : Bool :=
  match a.stage with
  | .establishing found => (Remote.establish found remote).1.isOk
  | _ => false

/-- Attempts are counted in the steps that ask the remote side for the endpoint, and only there. -/
theorem Access.Step.counts_attempt_iff [Remote ρ τ σ] {g g' : Gateway ρ σ} {id : TaskId}
    {a : Access τ σ} {n : Access.Next τ σ} (h : a.Step id g g' n) :
    g'.metrics.connectAttempts = g.metrics.connectAttempts + 1 ↔
      a.stage = .excluding ∧ a.aim ≠ .close ∧ g.link a.holder = .disconnected := by
  have hno {P : Prop} (hm : g'.metrics.connectAttempts = g.metrics.connectAttempts) (hP : ¬ P) :
      g'.metrics.connectAttempts = g.metrics.connectAttempts + 1 ↔ P := by
    rw [hm]
    exact ⟨fun h => absurd h (Nat.ne_of_lt (Nat.lt_succ_self _)), fun h => absurd h hP⟩
  cases h with
  | attempt hs ha hl hk | miss hs ha hl hk => exact ⟨fun _ => ⟨hs, ha, hk⟩, fun _ => rfl⟩
  | drop hs ha | shut hs ha => exact hno rfl fun h => h.2.1 ha
  | share hs ha hl hk | refuse hs hl hk =>
    refine hno rfl fun h => ?_
    rw [hk] at h
    cases h.2.2
  | askToExclude hs =>
    refine hno rfl fun h => ?_
    rcases hs with ⟨hs, -⟩ | hs <;> cases hs.symm.trans h.1
  | join hs =>
    refine hno rfl fun h => ?_
    rcases hs with hs | ⟨x, hs⟩ <;> cases hs.symm.trans h.1
  | askToShare hs | find hs | giveWay hs | establish hs | fail hs | use hs | lose hs | read hs
  | finish hs =>
    exact hno rfl fun h => by cases hs.symm.trans h.1

namespace System

variable [Remote ρ τ σ] {s s' s'' : System ρ τ σ} {h : HolderId} {id : TaskId} {e : Event ρ σ}
  {es : List (Event ρ σ)}

/-! ### Counting attempts -/

/-- What an event does for the attempts for a holder. Attempts that begin and attempts that fail are
those that the metrics count in a step of an access to the holder. -/
def calls (h : HolderId) (s : System ρ τ σ) (e : Event ρ σ) (s' : System ρ τ σ) : Calls :=
  match e with
  | .advance id =>
    match s.access? id with
    | some a =>
      if a.holder = h then
        { begun := s'.gateway.metrics.connectAttempts - s.gateway.metrics.connectAttempts
          failed := s'.gateway.metrics.connectFailures - s.gateway.metrics.connectFailures
          succeeded := (a.opens s.gateway.remote).toNat }
      else {}
    | none => {}
  | .abandon id =>
    match s.access? id with
    | some a => if a.holder = h ∧ a.stage.isOpening then { dropped := 1 } else {}
    | none => {}
  | _ => {}

/-- What the events of a run do for the attempts for a holder. -/
def callsIn (h : HolderId) : System ρ τ σ → List (Event ρ σ) → Calls
  | _, [] => {}
  | s, e :: es =>
    match s.after? e with
    | some s' => calls h s e s' + callsIn h s' es
    | none => {}

theorem callsIn_snoc (hr : Run s es s') (hs : s'.after? e = some s'') :
    callsIn h s (es ++ [e]) = callsIn h s es + calls h s' e s'' := by
  induction es generalizing s with
  | nil =>
    obtain rfl := run_nil.1 hr
    simp only [List.nil_append, callsIn, hs, Calls.zero_add]
    rfl
  | cons e₁ es ih =>
    obtain ⟨s₁, hs₁, hr⟩ := run_cons.1 hr
    rw [List.cons_append, callsIn, callsIn, hs₁]
    simp only [ih hr, Calls.add_assoc]

/-- A task is opening a session for a holder. -/
def OpeningBy (h : HolderId) (s : System ρ τ σ) (id : TaskId) : Prop :=
  ∃ a, s.access? id = some a ∧ a.holder = h ∧ a.stage.isOpening

/-- A session is being opened for a holder. -/
def Opening (h : HolderId) (s : System ρ τ σ) : Prop := ∃ id, OpeningBy h s id

/-! ### What an event does for the attempts -/

/-- What an event can do for the attempts for a holder: they begin and end one by one, while the
holder is disconnected. -/
inductive Progress (h : HolderId) (s : System ρ τ σ) (e : Event ρ σ) (s' : System ρ τ σ) :
    Prop where
  /-- Nothing; the holder may be closed. -/
  | idle (hc : calls h s e s' = {}) (ho : Opening h s' ↔ Opening h s)
      (hl : s'.gateway.link h = s.gateway.link h ∨ s'.gateway.link h = .closed)
  /-- An attempt begins, and may end at once. -/
  | begins (failed : Nat)
      (hc : calls h s e s' = { begun := 1, failed })
      (hr : s'.gateway.remote = (Remote.reach (s.gateway.endpoint h) s.gateway.remote).2)
      (hl : s.gateway.link h = .disconnected) (hl' : s'.gateway.link h = .disconnected)
      (ho : ¬ Opening h s) (ho' : failed = 0 ∧ Opening h s' ∨ failed = 1 ∧ ¬ Opening h s')
  /-- An attempt ends without a session. -/
  | ends (failed dropped : Nat) (hc : calls h s e s' = { failed, dropped })
      (hn : failed + dropped = 1) (hl : s'.gateway.link h = s.gateway.link h)
      (ho : Opening h s) (ho' : ¬ Opening h s')
  /-- An attempt ends with a session. -/
  | succeeds (x : σ) (hc : calls h s e s' = { succeeded := 1 })
      (hl : s.gateway.link h = .disconnected) (hl' : s'.gateway.link h = .connected x)
      (ho : Opening h s) (ho' : ¬ Opening h s')

omit [Remote ρ τ σ] in
/-- A task that begins or ends no attempt leaves it to the others whether there is one. -/
theorem opening_iff (ho : ∀ id', id' ≠ id → s'.access? id' = s.access? id')
    (hb : ¬ OpeningBy h s id) (ha : ¬ OpeningBy h s' id) : Opening h s' ↔ Opening h s := by
  constructor <;> rintro ⟨id', b, hb', hrest⟩
  · have hne : id' ≠ id := fun hid => ha ⟨b, hid ▸ hb', hrest⟩
    exact ⟨id', b, (ho id' hne).symm.trans hb', hrest⟩
  · have hne : id' ≠ id := fun hid => hb ⟨b, hid ▸ hb', hrest⟩
    exact ⟨id', b, (ho id' hne).trans hb', hrest⟩

omit [Remote ρ τ σ] in
theorem not_openingBy {a : Access τ σ} (ha : s.access? id = some a)
    (hh : a.holder = h → a.stage.isOpening = false) : ¬ OpeningBy h s id := by
  rintro ⟨b, hb, hbh, hop⟩
  rw [ha] at hb
  cases hb
  rw [hh hbh] at hop
  cases hop

omit [Remote ρ τ σ] in
theorem not_openingBy_of_none (ha : s.access? id = none) : ¬ OpeningBy h s id := by
  rintro ⟨b, hb, -⟩
  rw [ha] at hb
  cases hb

omit [Remote ρ τ σ] in
/-- Who has the lock alone and is not opening a session knows that nobody is. -/
theorem Disciplined.not_opening (hs : Disciplined s) {a : Access τ σ}
    (ha : s.access? id = some a) (hl : (id, .exclusive) ∈ (s.gateway.lock h).held)
    (hop : a.stage.isOpening = false) : ¬ Opening h s := by
  rintro ⟨id', b, hb, hbh, hbo⟩
  have hid := hs.eq_of_holds hl hb hbh (Stage.holds_of_isOpening hbo).1
  exact not_openingBy ha (fun _ => hop) ⟨b, hid ▸ hb, hbh, hbo⟩

omit [Remote ρ τ σ] in
/-- While a session is being opened for a holder, it is disconnected. -/
theorem Disciplined.disconnected_of_opening (hs : Disciplined s) (ho : Opening h s) :
    s.gateway.link h = .disconnected := by
  obtain ⟨id, a, ha, hh, hop⟩ := ho
  have hf := hs.fits ha
  rw [hh] at hf
  cases hst : a.stage with
  | establishing found =>
    rw [hst] at hf
    exact hf
  | _ =>
    rw [hst] at hop
    cases hop

omit [Remote ρ τ σ] in
/-- When the one attempt for a holder ends, there is none. -/
theorem Disciplined.not_opening_after (hs : Disciplined s) {a : Access τ σ}
    (ha : s.access? id = some a) (hop : a.stage.isOpening)
    (ho : ∀ id', id' ≠ id → s'.access? id' = s.access? id')
    (hn : ¬ OpeningBy a.holder s' id) : ¬ Opening a.holder s' := by
  rintro ⟨id', b, hb, hbh, hbo⟩
  by_cases hid : id' = id
  · exact hn ⟨b, hid ▸ hb, hbh, hbo⟩
  · rw [ho id' hid] at hb
    have hl := hs.holds ha (Stage.holds_of_isOpening hop).1 (Stage.holds_of_isOpening hop).2
    exact hid (hs.eq_of_holds hl hb hbh (Stage.holds_of_isOpening hbo).1)

theorem calls_advance (s' : System ρ τ σ) {a : Access τ σ} (ha : s.access? id = some a)
    (hh : a.holder = h) :
    calls h s (.advance id) s' =
      { begun := s'.gateway.metrics.connectAttempts - s.gateway.metrics.connectAttempts
        failed := s'.gateway.metrics.connectFailures - s.gateway.metrics.connectFailures
        succeeded := (a.opens s.gateway.remote).toNat } := by
  simp only [calls, ha, hh, if_true]

/-- A step of an access to another holder is not counted. -/
theorem calls_advance_of_ne {a : Access τ σ} (ha : s.access? id = some a) (hh : a.holder ≠ h) :
    calls h s (.advance id) s' = {} := by
  simp only [calls, ha, hh, if_false]

/-- What a step of an access does for the attempts for its holder. -/
theorem Disciplined.progress_of_step (hs : Disciplined s) {a : Access τ σ} {g : Gateway ρ σ}
    {n : Access.Next τ σ} (ha : s.access? id = some a) (hstep : a.Step id s.gateway g n)
    (hg : s'.gateway = { g with workers := s'.gateway.workers })
    (hn : s'.access? id = n.getLeft?) (ho : ∀ id', id' ≠ id → s'.access? id' = s.access? id') :
    Progress a.holder s (.advance id) s' := by
  have hcalls := calls_advance s' ha rfl
  have hlink : s'.gateway.link a.holder = g.link a.holder := by
    rw [hg]
    rfl
  have hopens : a.stage.isOpening = false → (a.opens s.gateway.remote).toNat = 0 := by
    intro hop
    rw [Access.opens]
    cases hst : a.stage <;> rw [hst] at hop <;> first | rfl | cases hop
  have hafter : n.getLeft?.any (·.stage.isOpening) = false → ¬ OpeningBy a.holder s' id := by
    rintro hop ⟨b, hb, -, hbo⟩
    rw [← hn, hb, Option.any_some, hbo] at hop
    cases hop
  rw [show s'.gateway.metrics = g.metrics by rw [hg]] at hcalls
  -- Most steps neither begin nor end an attempt.
  have hidle (hop : a.stage.isOpening = false)
      (hop' : n.getLeft?.any (·.stage.isOpening) = false) (hm : g.metrics = s.gateway.metrics)
      (hl : g.link a.holder = s.gateway.link a.holder ∨ g.link a.holder = .closed) :
      Progress a.holder s (.advance id) s' := by
    refine .idle ?_ (opening_iff ho (not_openingBy ha fun _ => hop) (hafter hop')) (hlink ▸ hl)
    rw [hcalls, hm, hopens hop, Nat.sub_self, Nat.sub_self]
  cases hstep with
  | askToShare hst | find hst | giveWay hst | share hst | use hst | lose hst | read hst
  | finish hst =>
    exact hidle (by rw [hst]; rfl) rfl rfl (.inl (by simp [Gateway.link_modifyLock]; try rfl))
  | askToExclude hst =>
    refine hidle ?_ rfl rfl (.inl (by simp))
    rcases hst with ⟨hst, -⟩ | hst <;> rw [hst] <;> rfl
  | refuse hst =>
    refine hidle ?_ rfl rfl (.inl (by simp))
    rcases hst with ⟨hst, -⟩ | ⟨hst, -⟩ <;> rw [hst] <;> rfl
  | join hst =>
    refine hidle ?_ rfl rfl (.inl (by simp))
    rcases hst with hst | ⟨x, hst⟩ <;> rw [hst] <;> rfl
  | drop hst haim hl =>
    exact hidle (by rw [hst]; rfl) rfl rfl
      (.inr (Gateway.link_setLink (Gateway.made_of_mem_held hl) _))
  | shut hst haim hl =>
    refine hidle (by rw [hst]; rfl) rfl rfl (.inr ?_)
    rw [Gateway.link_modifyLock, Gateway.link_setLink (Gateway.made_of_mem_held hl)]
  | attempt hst haim hl hk =>
    have hop : a.stage.isOpening = false := by rw [hst]; rfl
    refine .begins 0 ?_ (by rw [hg]; rfl) hk (hlink.trans hk) (hs.not_opening ha hl hop)
      (.inl ⟨rfl, id, _, hn, rfl, rfl⟩)
    rw [hcalls, hopens hop]
    exact Calls.ext (Nat.add_sub_cancel_left ..) (Nat.sub_self _) rfl rfl
  | miss hst haim hl hk =>
    have hop : a.stage.isOpening = false := by rw [hst]; rfl
    have hnot := hs.not_opening ha hl hop
    refine .begins 1 ?_ (by rw [hg]; rfl) hk ((hlink.trans (by simp; rfl)).trans hk) hnot
      (.inr ⟨rfl, fun h => hnot ((opening_iff ho ?_ (hafter rfl)).1 h)⟩)
    · rw [hcalls, hopens hop]
      exact Calls.ext (Nat.add_sub_cancel_left ..) (Nat.add_sub_cancel_left ..) rfl rfl
    · exact not_openingBy ha fun _ => hop
  | @establish found x hst hr =>
    have hop : a.stage.isOpening := by rw [hst]; rfl
    have hbefore : Opening a.holder s := ⟨id, a, ha, rfl, hop⟩
    have hmade : (Access.established s.gateway found).Made a.holder :=
      Gateway.made_of_mem_held (hs.holds ha (Stage.holds_of_isOpening hop).1
        (Stage.holds_of_isOpening hop).2)
    refine .succeeds x ?_ (hs.disconnected_of_opening hbefore) ?_ hbefore
      (hs.not_opening_after ha hop ho (hafter rfl))
    · have hopens' : a.opens s.gateway.remote = true := by
        simp only [Access.opens, hst, hr]
        rfl
      rw [hcalls, hopens']
      exact Calls.ext (Nat.sub_self _) (Nat.sub_self _) rfl rfl
    · rw [hlink, Gateway.link_modifyLock, Gateway.link_setLink hmade]
  | fail hst hr =>
    have hop : a.stage.isOpening := by rw [hst]; rfl
    refine .ends 1 0 ?_ rfl (hlink.trans (by simp; rfl)) ⟨id, a, ha, rfl, hop⟩
      (hs.not_opening_after ha hop ho (hafter rfl))
    have hopens' : a.opens s.gateway.remote = false := by
      simp only [Access.opens, hst, hr]
      rfl
    rw [hcalls, hopens']
    exact Calls.ext (Nat.sub_self _) (Nat.add_sub_cancel_left ..) rfl rfl

/-- **An event does nothing else** for the attempts for a holder. -/
theorem Disciplined.progress (hs : Disciplined s) (hc : Change s e s') (h : HolderId) :
    Progress h s e s' := by
  cases hc with
  | @move id a g n _ ha hstep hg hn ho =>
    by_cases hh : a.holder = h
    · subst hh
      exact hs.progress_of_step ha hstep hg hn ho
    · refine .idle (calls_advance_of_ne ha hh)
        (opening_iff ho (not_openingBy ha fun h => absurd h hh) ?_) (.inl ?_)
      · rintro ⟨b, hb, hbh, -⟩
        rw [hn, Sum.getLeft?_eq_some_iff] at hb
        subst hb
        exact hh (hstep.same.1.symm.trans hbh)
      · rw [hg]
        exact hstep.touches.link h (Ne.symm hh)
  | @drop id a _ ha hg hn ho =>
    have hlink : s'.gateway.link h = s.gateway.link h := by
      rw [hg]
      exact Gateway.link_modifyLock s.gateway a.holder h (·.leave id)
    have hgone : ¬ OpeningBy h s' id := not_openingBy_of_none hn
    by_cases hop : a.holder = h ∧ a.stage.isOpening
    · obtain ⟨rfl, hop⟩ := hop
      refine .ends 0 1 ?_ rfl hlink ⟨id, a, ha, rfl, hop⟩ (hs.not_opening_after ha hop ho hgone)
      simp only [calls, ha, hop, and_self, if_true]
    · refine .idle ?_ (opening_iff ho (not_openingBy ha fun hh => ?_) hgone) (.inl hlink)
      · simp only [calls, ha, hop, if_false]
      · exact Bool.eq_false_iff.2 fun h => hop ⟨hh, h⟩
  | quiet remote hg ho he =>
    have hcalls : calls h s e s' = {} := by
      cases e with
      | advance id => simp only [calls, he id (.inl rfl)]
      | abandon id => simp only [calls, he id (.inr rfl)]
      | _ => rfl
    refine .idle hcalls ⟨?_, ?_⟩ (.inl (hg.link h)) <;> rintro ⟨id, a, ha, hh, hop⟩
    · rcases ho id with hid | ⟨-, hid⟩
      · exact ⟨id, a, hid.symm.trans ha, hh, hop⟩
      · rw [hid a ha] at hop
        cases hop
    · rcases ho id with hid | ⟨hid, -⟩
      · exact ⟨id, a, hid.trans ha, hh, hop⟩
      · rw [hid] at ha
        cases ha

/-! ### Runs -/

/-- Every attempt for a holder that has begun is accounted for. -/
structure Counted (h : HolderId) (s : System ρ τ σ) (c : Calls) : Prop where
  /-- While no session is being opened, every attempt has ended. -/
  ended : ¬ Opening h s → c.begun = c.failed + c.dropped + c.succeeded
  /-- While a session is being opened, every other attempt has ended. -/
  pending : Opening h s → c.begun = c.failed + c.dropped + c.succeeded + 1
  /-- There has been no session as long as the holder is disconnected. -/
  fresh : s.gateway.link h = .disconnected → c.succeeded = 0
  /-- There has been at most one session. -/
  once : c.succeeded ≤ 1

theorem Counted.progress {c : Calls} (hc : Counted h s c) (hp : Progress h s e s') :
    Counted h s' (c + calls h s e s') := by
  cases hp with
  | idle hcalls ho hl =>
    rw [hcalls]
    refine ⟨fun hn => hc.ended (mt ho.2 hn), fun h => hc.pending (ho.1 h), fun hk => ?_, hc.once⟩
    rcases hl with hl | hl <;> rw [hl] at hk
    · exact hc.fresh hk
    · cases hk
  | begins failed hcalls hr hl hl' ho ho' =>
    have hended := hc.ended ho
    rw [hcalls]
    refine ⟨fun hn => ?_, fun h => ?_, fun _ => hc.fresh hl, hc.once⟩
    · obtain ⟨-, h⟩ | ⟨rfl, -⟩ := ho'
      · exact absurd h hn
      · simp only [Calls.begun_add, Calls.failed_add, Calls.dropped_add, Calls.succeeded_add]
        omega
    · obtain ⟨rfl, -⟩ | ⟨-, hn⟩ := ho'
      · simp only [Calls.begun_add, Calls.failed_add, Calls.dropped_add, Calls.succeeded_add]
        omega
      · exact absurd h hn
  | ends failed dropped hcalls hn hl ho ho' =>
    have hopen := hc.pending ho
    rw [hcalls]
    refine ⟨fun _ => ?_, fun h => absurd h ho', fun hk => hc.fresh (hl.symm.trans hk), hc.once⟩
    simp only [Calls.begun_add, Calls.failed_add, Calls.dropped_add, Calls.succeeded_add]
    omega
  | succeeds x hcalls hl hl' ho ho' =>
    have hopen := hc.pending ho
    have hfresh := hc.fresh hl
    rw [hcalls]
    refine ⟨fun _ => ?_, fun h => absurd h ho', fun hk => ?_, ?_⟩
    · simp only [Calls.begun_add, Calls.failed_add, Calls.dropped_add, Calls.succeeded_add]
      omega
    · rw [hl'] at hk
      cases hk
    · simp only [Calls.succeeded_add]
      omega

/-- In every run the attempts are accounted for. -/
theorem counted_of_run {remote : ρ} {workers : Permits} (hr : Run (start remote workers) es s)
    (h : HolderId) : Counted h s (callsIn h (start remote workers) es) := by
  generalize hs₀ : (start remote workers : System ρ τ σ) = s₀ at hr
  induction hr with
  | nil =>
    subst hs₀
    refine ⟨fun _ => rfl, fun ho => ?_, fun _ => rfl, Nat.zero_le 1⟩
    obtain ⟨id, a, ha, -⟩ := ho
    cases ha
  | snoc hr hs ih =>
    subst hs₀
    have hd := disciplined_of_run hr
    rw [callsIn_snoc hr hs]
    exact ih.progress (hd.progress (change_of_after? hs) h)

/-- Once a holder is not disconnected any more, no attempt begins for it. -/
theorem Disciplined.no_calls (hs : Disciplined s) (hl : s.gateway.link h ≠ .disconnected)
    (hr : Run s es s') : (callsIn h s es).begun = 0 ∧ s'.gateway.link h ≠ .disconnected := by
  induction hr with
  | nil => exact ⟨rfl, hl⟩
  | @snoc u u' es e hr hu ih =>
    obtain ⟨hb, hk⟩ := ih
    have hd : Disciplined u := hr.preserves (fun hs hu => hs.change (change_of_after? hu)) hs
    rw [callsIn_snoc hr hu, Calls.begun_add, hb, Nat.zero_add]
    cases hd.progress (change_of_after? hu) h with
    | idle hc ho hl =>
      refine ⟨by rw [hc], fun hk' => ?_⟩
      rcases hl with hl | hl <;> rw [hl] at hk'
      · exact hk hk'
      · cases hk'
    | begins failed hc hr hl => exact absurd hl hk
    | ends failed dropped hc hn hl => exact ⟨by rw [hc], fun hk' => hk (hl.symm.trans hk')⟩
    | succeeds x hc hl => exact absurd hl hk

/-- What an event can do to a link, and what holds of the attempts that it begins. -/
theorem Progress.moves (hp : Progress h s e s') :
    Link.Moves (s.gateway.link h) (s'.gateway.link h) ∧
      ((calls h s e s').begun ≠ 0 → (calls h s e s').begun = 1 ∧
        s.gateway.link h = .disconnected ∧ ¬ Opening h s ∧
        s'.gateway.remote = (Remote.reach (s.gateway.endpoint h) s.gateway.remote).2) := by
  cases hp with
  | idle hc ho hl =>
    refine ⟨?_, fun hn => absurd (by rw [hc]) hn⟩
    rcases hl with hl | hl <;> rw [hl]
    · exact .stay _
    · exact Link.moves_closed _
  | begins failed hc hr hl hl' ho =>
    refine ⟨?_, fun _ => ⟨by rw [hc], hl, ho, hr⟩⟩
    rw [hl, hl']
    exact .stay _
  | ends failed dropped hc hn hl =>
    refine ⟨?_, fun hn => absurd (by rw [hc]) hn⟩
    rw [hl]
    exact .stay _
  | succeeds x hc hl hl' =>
    refine ⟨?_, fun hn => absurd (by rw [hc]) hn⟩
    rw [hl, hl']
    exact .connect x

/-- A closed holder stays closed. -/
theorem Disciplined.closed_after? (hs : Disciplined s) (he : s.after? e = some s')
    (hk : s.gateway.link h = .closed) : s'.gateway.link h = .closed := by
  have hmoves := ((hs.progress (change_of_after? he) h).moves).1
  rw [hk] at hmoves
  generalize s'.gateway.link h = k at hmoves ⊢
  cases hmoves
  rfl

theorem Disciplined.closed_of_run (hs : Disciplined s) (hr : Run s es s')
    (hk : s.gateway.link h = .closed) : s'.gateway.link h = .closed := by
  have hI : Disciplined s' ∧ s'.gateway.link h = .closed := by
    refine hr.preserves (I := fun u => Disciplined u ∧ u.gateway.link h = .closed) ?_ ⟨hs, hk⟩
    rintro u e u' ⟨hd, hk⟩ he
    exact ⟨hd.change (change_of_after? he), hd.closed_after? he hk⟩
  exact hI.2

/-- **A holder is connected at most once**, however many tasks race to connect it, read through it
and close it, whatever the remote side does and wherever tasks are dropped: its link only moves from
disconnected to connected and from there or directly to closed; an attempt begins only while the
holder is disconnected and no other is under way, and while one is under way the holder stays
disconnected; at most one attempt succeeds, and then every attempt but that one has failed or has
been dropped; and none begins once the holder has been connected or closed. -/
theorem connects_at_most_once {remote : ρ} {workers : Permits}
    (hr : Run (start remote workers) es s) (h : HolderId) :
    (∀ {u e u'}, Occurs (start remote workers) es u e u' →
      Link.Moves (u.gateway.link h) (u'.gateway.link h) ∧
        ((calls h u e u').begun ≠ 0 → (calls h u e u').begun = 1 ∧
          u.gateway.link h = .disconnected ∧ ¬ Opening h u ∧
          u'.gateway.remote = (Remote.reach (u.gateway.endpoint h) u.gateway.remote).2)) ∧
    (Opening h s → s.gateway.link h = .disconnected) ∧
    (callsIn h (start remote workers) es).succeeded ≤ 1 ∧
    ((callsIn h (start remote workers) es).succeeded = 1 →
      (callsIn h (start remote workers) es).begun =
        (callsIn h (start remote workers) es).failed +
          (callsIn h (start remote workers) es).dropped + 1) ∧
    (s.gateway.link h ≠ .disconnected →
      ∀ {es' s'}, Run s es' s' → (callsIn h s es').begun = 0) := by
  have hd := disciplined_of_run hr
  have hc := counted_of_run hr h
  refine ⟨fun hu => ?_, hd.disconnected_of_opening, hc.once, fun hsucc => ?_,
    fun hl _ _ hr' => (hd.no_calls hl hr').1⟩
  · obtain ⟨es₁, es₂, rfl, hu, hu'⟩ := hu
    exact ((disciplined_of_run hu).progress (change_of_after? hu') h).moves
  · -- After a success the holder is not disconnected, so no session is being opened.
    have hnot : ¬ Opening h s := by
      intro ho
      rw [hc.fresh (hd.disconnected_of_opening ho)] at hsucc
      cases hsucc
    rw [hc.ended hnot, hsucc]

/-- Two tasks connect a holder and a third reads through it: the first attempt is refused by the
endpoint, the second is not; then the holder is closed. -/
def race : List (Event Registry Nat) :=
  [.alter fun r => (r.register "u").modify "u" ({ · with refusing := true }), .addHolder "u",
    .begin (.access 0 .connect), .begin (.access 0 .connect), .begin (.access 0 (.fetch "b" "a")),
    .begin (.access 0 .close)] ++
  [0, 1, 2, 0, 1, 2, 0, 1, 2, 0, 1, 2, 0, 0].map .advance ++
  [.alter fun r => r.modify "u" ({ · with refusing := false })] ++
  [1, 1, 1, 2, 3, 3, 2, 2, 3, 3].map .advance

theorem race_connects_once :
    callsIn 0 inMemory race = { begun := 2, failed := 1, succeeded := 1 } ∧
    (callsIn 0 inMemory race).begun =
      (callsIn 0 inMemory race).failed + (callsIn 0 inMemory race).dropped + 1 := by
  have hr : Run inMemory race (inMemory.behind race) := run_behind (by decide +kernel)
  have hcalls : callsIn 0 inMemory race = { begun := 2, failed := 1, succeeded := 1 } := by
    decide +kernel
  exact ⟨hcalls, (connects_at_most_once hr 0).2.2.2.1 (congrArg Calls.succeeded hcalls)⟩

end System

end AttributeGateway
