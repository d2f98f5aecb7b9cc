import AttributeGateway.Gateway.System
import AttributeGateway.Proofs.Gateway.Requests

/-!
# What a step can do

A task takes its steps in one of two states: it has an access to a holder under way, or it has none.
In the first case its step is a step of the access, which touches that holder only; in the second it
lets the gateway evolve, and whatever access it begins then stands at its beginning. This is said
here once, guards included; everything about runs is derived from it.

* `Access.Step` — the steps of an access; `Access.step_of_eq_some` says that there are no others,
  and `Access.Step.eq_some` that each of them is taken.
* `Activity.step_access`, `Activity.step_of_access` — while an access is under way, a step of an
  activity is a step of it.
* `Activity.Quiet` — the steps without an access; `Activity.quiet_of_step` says that there are no
  others, and `Activity.Quiet.follows` that they let the gateway evolve.
-/

namespace AttributeGateway

variable {ρ τ σ : Type} {g g' : Gateway ρ σ} {id : TaskId}

namespace Access

variable [Remote ρ τ σ] {a a' : Access τ σ} {n : Next τ σ}

/-! ### Steps of an access -/

/-- The gateway when an attempt to open a session with an endpoint has begun. -/
def reached (g : Gateway ρ σ) (url : String) : Gateway ρ σ :=
  { g.count fun m => { m with connectAttempts := m.connectAttempts + 1 } with
    remote := (Remote.reach url g.remote).2 }

/-- The gateway when a failed attempt has been counted. -/
def countFailure (g : Gateway ρ σ) : Gateway ρ σ :=
  g.count fun m => { m with connectFailures := m.connectFailures + 1 }

/-- The gateway when an attempt to open a session has ended. -/
def established (g : Gateway ρ σ) (found : τ) : Gateway ρ σ :=
  { g with remote := (Remote.establish found g.remote).2 }

/-- What a read comes to. -/
def readOutcome (x : σ) (bean attributeName : String) (g : Gateway ρ σ) : Outcome :=
  match (Remote.read x bean attributeName g.remote).1 with
  | .ok v => .fetched v
  | .error error => .failed (.ofRemote error)

/-- The steps of an access of a task: under which circumstances a step is taken, what it makes of
the gateway, and how the access goes on or what it comes to. -/
inductive Step (id : TaskId) (a : Access τ σ) (g : Gateway ρ σ) :
    Gateway ρ σ → Next τ σ → Prop where
  /-- The lock is asked for, to share it. -/
  | askToShare (hs : a.stage = .beginning) (ha : a.aim ≠ .close) :
    Step id a g (g.modifyLock a.holder (·.request id .shared)) (.inl { a with stage := .sharing })
  /-- The lock is asked for, to have it alone. -/
  | askToExclude (hs : a.stage = .beginning ∧ a.aim = .close ∨ a.stage = .upgrading) :
    Step id a g (g.modifyLock a.holder (·.request id .exclusive))
      (.inl { a with stage := .excluding })
  /-- Sharing the lock, the holder is found connected. -/
  | find {x : σ} (hs : a.stage = .sharing) (hl : (id, .shared) ∈ (g.lock a.holder).held)
      (hk : g.link a.holder = .connected x) :
    Step id a g g (.inl { a with stage := .guarding })
  /-- Sharing the lock, the holder is found disconnected. -/
  | giveWay (hs : a.stage = .sharing) (hl : (id, .shared) ∈ (g.lock a.holder).held)
      (hk : g.link a.holder = .disconnected) :
    Step id a g (g.modifyLock a.holder (·.leave id)) (.inl { a with stage := .upgrading })
  /-- The holder is found closed. -/
  | refuse {m : LockMode} (hs : a.stage = .sharing ∧ m = .shared ∨
        a.stage = .excluding ∧ a.aim ≠ .close ∧ m = .exclusive)
      (hl : (id, m) ∈ (g.lock a.holder).held) (hk : g.link a.holder = .closed) :
    Step id a g (g.modifyLock a.holder (·.leave id))
      (.inr (.failed (.holderClosed (g.endpoint a.holder))))
  /-- Having the lock alone, a connected holder is marked as closed. -/
  | drop {x : σ} (hs : a.stage = .excluding) (ha : a.aim = .close)
      (hl : (id, .exclusive) ∈ (g.lock a.holder).held) (hk : g.link a.holder = .connected x) :
    Step id a g (g.setLink a.holder .closed) (.inl { a with stage := .ending x })
  /-- Having the lock alone, a holder without a session is marked as closed. -/
  | shut (hs : a.stage = .excluding) (ha : a.aim = .close)
      (hl : (id, .exclusive) ∈ (g.lock a.holder).held)
      (hk : ∀ x, g.link a.holder ≠ .connected x) :
    Step id a g ((g.setLink a.holder .closed).modifyLock a.holder (·.leave id)) (.inr .closed)
  /-- Having the lock alone, the holder is found connected. -/
  | share {x : σ} (hs : a.stage = .excluding) (ha : a.aim ≠ .close)
      (hl : (id, .exclusive) ∈ (g.lock a.holder).held) (hk : g.link a.holder = .connected x) :
    Step id a g (g.modifyLock a.holder (·.downgrade id)) (.inl { a with stage := .guarding })
  /-- Having the lock alone, the holder is found disconnected, and its endpoint is found. -/
  | attempt {found : τ} (hs : a.stage = .excluding) (ha : a.aim ≠ .close)
      (hl : (id, .exclusive) ∈ (g.lock a.holder).held) (hk : g.link a.holder = .disconnected)
      (hr : (Remote.reach (g.endpoint a.holder) g.remote).1 = .ok found) :
    Step id a g (reached g (g.endpoint a.holder)) (.inl { a with stage := .establishing found })
  /-- Having the lock alone, the holder is found disconnected, and its endpoint is not found. -/
  | miss {error : RemoteError} (hs : a.stage = .excluding) (ha : a.aim ≠ .close)
      (hl : (id, .exclusive) ∈ (g.lock a.holder).held) (hk : g.link a.holder = .disconnected)
      (hr : (Remote.reach (g.endpoint a.holder) g.remote).1 = .error error) :
    Step id a g
      ((countFailure (reached g (g.endpoint a.holder))).modifyLock a.holder (·.leave id))
      (.inr (.failed (.connectionFailed error.message)))
  /-- A session has been opened. -/
  | establish {found : τ} {x : σ} (hs : a.stage = .establishing found)
      (hr : (Remote.establish found g.remote).1 = .ok x) :
    Step id a g
      (((established g found).setLink a.holder (.connected x)).modifyLock a.holder
        (·.downgrade id))
      (.inl { a with stage := .guarding })
  /-- No session could be opened. -/
  | fail {found : τ} {error : RemoteError} (hs : a.stage = .establishing found)
      (hr : (Remote.establish found g.remote).1 = .error error) :
    Step id a g ((countFailure (established g found)).modifyLock a.holder (·.leave id))
      (.inr (.failed (.connectionFailed error.message)))
  /-- The session that was found is used. -/
  | use {x : σ} {bean attributeName : String} (hs : a.stage = .guarding)
      (ha : a.aim = .fetch bean attributeName) (hk : g.link a.holder = .connected x) :
    Step id a g g (.inl { a with stage := .reading x })
  /-- The session that was found is gone. -/
  | lose {bean attributeName : String} (hs : a.stage = .guarding)
      (ha : a.aim = .fetch bean attributeName) (hk : ∀ x, g.link a.holder ≠ .connected x) :
    Step id a g (g.modifyLock a.holder (·.leave id))
      (.inr (.failed (lostSession (g.endpoint a.holder))))
  /-- It was enough that the holder is connected. -/
  | join (hs : a.stage = .guarding ∨ ∃ x, a.stage = .reading x)
      (ha : ∀ bean attributeName, a.aim ≠ .fetch bean attributeName) :
    Step id a g (g.modifyLock a.holder (·.leave id)) (.inr .connected)
  /-- The attribute has been read, or could not be. -/
  | read {x : σ} {bean attributeName : String} (hs : a.stage = .reading x)
      (ha : a.aim = .fetch bean attributeName) :
    Step id a g
      ({ g with remote := (Remote.read x bean attributeName g.remote).2 }.modifyLock a.holder
        (·.leave id))
      (.inr (readOutcome x bean attributeName g))
  /-- The session has been closed. -/
  | finish {x : σ} (hs : a.stage = .ending x) :
    Step id a g
      ({ g with remote := (Remote.close x g.remote).2 }.modifyLock a.holder (·.leave id))
      (.inr .closed)

theorem step_of_lookShared (hs : a.stage = .sharing)
    (hl : (id, .shared) ∈ (g.lock a.holder).held) (h : a.lookShared id g = (g', n)) :
    a.Step id g g' n := by
  rw [lookShared] at h
  split at h
  · next x hk =>
    cases h
    exact .find hs hl hk
  · next hk =>
    cases h
    exact .refuse (.inl ⟨hs, rfl⟩) hl hk
  · next hk =>
    cases h
    exact .giveWay hs hl hk

theorem step_of_beginConnect (hs : a.stage = .excluding) (ha : a.aim ≠ .close)
    (hl : (id, .exclusive) ∈ (g.lock a.holder).held) (hk : g.link a.holder = .disconnected)
    (h : a.beginConnect id g = (g', n)) : a.Step id g g' n := by
  simp only [beginConnect] at h
  split at h
  · next found hr =>
    cases h
    exact .attempt hs ha hl hk hr
  · next error hr =>
    cases h
    exact .miss hs ha hl hk hr

theorem step_of_lookAlone (hs : a.stage = .excluding)
    (hl : (id, .exclusive) ∈ (g.lock a.holder).held) (h : a.lookAlone id g = (g', n)) :
    a.Step id g g' n := by
  rw [lookAlone] at h
  split at h
  · next x ha hk =>
    cases h
    exact .drop hs ha hl hk
  · next ha hk =>
    cases h
    exact .shut hs ha hl fun x hx => hk x hx
  · next hk ha =>
    cases h
    exact .refuse (.inr ⟨hs, ha, rfl⟩) hl hk
  · next x hk ha =>
    cases h
    exact .share hs ha hl hk
  · next hk ha => exact step_of_beginConnect hs ha hl hk h

theorem step_of_endConnect {found : τ} (hs : a.stage = .establishing found)
    (h : a.endConnect id found g = (g', n)) : a.Step id g g' n := by
  simp only [endConnect] at h
  split at h
  · next x hr =>
    cases h
    exact .establish hs hr
  · next error hr =>
    cases h
    exact .fail hs hr

theorem step_of_useSession (hs : a.stage = .guarding) (h : a.useSession id g = (g', n)) :
    a.Step id g g' n := by
  rw [useSession] at h
  split at h
  · next bean attributeName x ha hk =>
    cases h
    exact .use hs ha hk
  · next bean attributeName ha hk =>
    cases h
    exact .lose hs ha fun x hx => hk x hx
  · next ha _ =>
    cases h
    exact .join (.inl hs) fun bean attributeName h => ha bean attributeName h

theorem step_of_endRead {x : σ} (hs : a.stage = .reading x) (h : a.endRead id x g = (g', n)) :
    a.Step id g g' n := by
  rw [endRead] at h
  split at h
  · next bean attributeName ha =>
    cases h
    exact .read hs ha
  · next ha =>
    cases h
    exact .join (.inr ⟨x, hs⟩) fun bean attributeName h => ha bean attributeName h

/-- **An access takes no other steps.** -/
theorem step_of_eq_some (h : a.step id g = some (g', n)) : a.Step id g g' n := by
  simp only [step] at h
  split at h
  · next hs =>
    split at h
    · next ha =>
      cases h
      exact .askToExclude (.inl ⟨hs, ha⟩)
    · next ha =>
      cases h
      exact .askToShare hs ha
  · next hs =>
    split at h
    · next hl => exact step_of_lookShared hs (Lock.holds_iff.1 hl) (Option.some.inj h)
    · cases h
  · next hs =>
    cases h
    exact .askToExclude (.inr hs)
  · next hs =>
    split at h
    · next hl => exact step_of_lookAlone hs (Lock.holds_iff.1 hl) (Option.some.inj h)
    · cases h
  · next found hs => exact step_of_endConnect hs (Option.some.inj h)
  · next hs => exact step_of_useSession hs (Option.some.inj h)
  · next x hs => exact step_of_endRead hs (Option.some.inj h)
  · next x hs =>
    cases h
    exact .finish hs

theorem beginConnect_eq {found : Except RemoteError τ}
    (hr : (Remote.reach (g.endpoint a.holder) g.remote).1 = found) :
    a.beginConnect id g = match (motive := Except RemoteError τ → Gateway ρ σ × Next τ σ) found with
      | .ok found => a.goOn (.establishing found) (reached g (g.endpoint a.holder))
      | .error error => a.connectFailed id error (reached g (g.endpoint a.holder)) := by
  subst hr
  rfl

/-- **An access takes each of these steps.** -/
theorem Step.eq_some (h : a.Step id g g' n) : a.step id g = some (g', n) := by
  have hheld {m : LockMode} (hl : (id, m) ∈ (g.lock a.holder).held) :
      (g.holder a.holder).lock.holds id m = true := Lock.holds_iff.2 hl
  have hlink {k : Link σ} (hk : g.link a.holder = k) : (g.holder a.holder).link = k := hk
  obtain ⟨h₀, aim, stage⟩ := a
  cases h with
  | askToShare hs ha =>
    cases hs
    cases aim with
    | close => exact absurd rfl ha
    | connect | fetch => rfl
  | askToExclude hs =>
    rcases hs with ⟨hs, ha⟩ | hs
    · cases hs
      cases ha
      rfl
    · cases hs
      rfl
  | find hs hl hk | giveWay hs hl hk =>
    cases hs
    simp only [step, hheld hl, if_true, lookShared, hlink hk, goOn]
  | refuse hs hl hk =>
    rcases hs with ⟨hs, rfl⟩ | ⟨hs, ha, rfl⟩
    · cases hs
      simp only [step, hheld hl, if_true, lookShared, hlink hk]
      rfl
    · cases hs
      cases aim with
      | close => exact absurd rfl ha
      | connect | fetch =>
        simp only [step, hheld hl, if_true, lookAlone, hlink hk]
        rfl
  | drop hs ha hl hk =>
    cases hs
    cases ha
    simp only [step, hheld hl, if_true, lookAlone, hlink hk, goOn]
  | shut hs ha hl hk =>
    cases hs
    cases ha
    simp only [step, hheld hl, if_true, lookAlone]
    cases hx : (g.holder h₀).link with
    | connected x => exact absurd hx (hk x)
    | disconnected | closed => rfl
  | share hs ha hl hk =>
    cases hs
    cases aim with
    | close => exact absurd rfl ha
    | connect | fetch =>
      simp only [step, hheld hl, if_true, lookAlone, hlink hk]
      rfl
  | attempt hs ha hl hk hr | miss hs ha hl hk hr =>
    cases hs
    cases aim with
    | close => exact absurd rfl ha
    | connect | fetch =>
      simp only [step, hheld hl, if_true, lookAlone, hlink hk, beginConnect_eq hr]
      rfl
  | establish hs hr | fail hs hr =>
    cases hs
    simp only [step, endConnect]
    rw [hr]
    rfl
  | use hs ha hk =>
    cases hs
    cases ha
    simp only [step, useSession, hlink hk, goOn]
  | lose hs ha hk =>
    cases hs
    cases ha
    simp only [step, useSession]
    cases hx : (g.holder h₀).link with
    | connected x => exact absurd hx (hk x)
    | disconnected | closed => rfl
  | join hs ha =>
    cases aim with
    | fetch bean attributeName => exact absurd rfl (ha _ _)
    | connect | close => rcases hs with hs | ⟨x, hs⟩ <;> cases hs <;> rfl
  | read hs ha =>
    cases hs
    cases ha
    rfl
  | finish hs =>
    cases hs
    rfl

/-- A step of an access touches its holder only. -/
theorem Step.touches (h : a.Step id g g' n) : g.Touches a.holder g' := by
  -- What is counted and what is asked of the remote side concerns no holder.
  have hlock {g₁ : Gateway ρ σ} {f : Lock → Lock} (hg : g.Touches a.holder g₁) :
      g.Touches a.holder (g₁.modifyLock a.holder f) := hg.trans (Gateway.touches_modifyLock ..)
  have hsame {g₁ : Gateway ρ σ} (hh : g₁.holders = g.holders) (hc : g₁.cache = g.cache) :
      g.Touches a.holder g₁ := Gateway.touches_of_eq hh hc
  cases h with
  | askToShare | askToExclude | giveWay | refuse | share | lose | join
  | miss | fail | read | finish => exact hlock (hsame rfl rfl)
  | find | use | attempt => exact hsame rfl rfl
  | drop => exact Gateway.touches_setLink ..
  | shut => exact hlock (Gateway.touches_setLink ..)
  | @establish found =>
    have hremote : g.Touches a.holder (established g found) := hsame rfl rfl
    exact hlock (hremote.trans (Gateway.touches_setLink ..))

/-- Only an access that is to close its holder closes it, having the lock alone; it goes on to close
the session, if there is one. -/
theorem Step.closes (h : a.Step id g g' n) (hk : g'.link a.holder = .closed) :
    g.link a.holder = .closed ∨ a.aim = .close ∧ a.stage = .excluding ∧
      ((∃ x b, g.link a.holder = .connected x ∧ n = .inl b ∧ b.stage = .ending x) ∨
        (∀ x, g.link a.holder ≠ .connected x) ∧ n = .inr .closed) := by
  -- Giving the lock back, asking for it and counting leave the link as it is.
  have hsame {g₁ : Gateway ρ σ} {f : Lock → Lock}
      (hk : (g₁.modifyLock a.holder f).link a.holder = .closed)
      (hg : g₁.link a.holder = g.link a.holder) : g.link a.holder = .closed := by
    rw [Gateway.link_modifyLock] at hk
    exact hg.symm.trans hk
  cases h with
  | drop hs ha hl hx => exact .inr ⟨ha, hs, .inl ⟨_, _, hx, rfl, rfl⟩⟩
  | shut hs ha hl hx => exact .inr ⟨ha, hs, .inr ⟨hx, rfl⟩⟩
  | @establish found x hs hr =>
    rw [Gateway.link_modifyLock] at hk
    by_cases hm : (established g found).Made a.holder
    · rw [Gateway.link_setLink hm] at hk
      cases hk
    · rw [Gateway.link_of_not_made (mt Gateway.made_setLink.1 hm)] at hk
      cases hk
  | find | use | attempt => exact .inl hk
  | _ => exact .inl (hsame hk rfl)

/-- An access that has a session in its hands closes it next, and ends. -/
theorem Step.of_ending (h : a.Step id g g' n) {x : σ} (hst : a.stage = .ending x) :
    n = .inr .closed ∧ g'.remote = (Remote.close x g.remote).2 := by
  cases h with
  | finish hs =>
    rw [hst] at hs
    cases hs
    exact ⟨rfl, rfl⟩
  | askToExclude hs => rcases hs with ⟨hs, -⟩ | hs <;> rw [hst] at hs <;> cases hs
  | refuse hs => rcases hs with ⟨hs, -⟩ | ⟨hs, -⟩ <;> rw [hst] at hs <;> cases hs
  | join hs => rcases hs with hs | ⟨y, hs⟩ <;> rw [hst] at hs <;> cases hs
  | askToShare hs | find hs | giveWay hs | drop hs | shut hs | share hs | attempt hs | miss hs
  | establish hs | fail hs | use hs | lose hs | read hs =>
    rw [hst] at hs
    cases hs

/-- An access that goes on is to the same holder, for the same purpose. -/
theorem Step.same (h : a.Step id g g' (.inl a')) : a'.holder = a.holder ∧ a'.aim = a.aim := by
  generalize hn : (Sum.inl a' : Next τ σ) = n at h
  cases h <;> cases hn <;> exact ⟨rfl, rfl⟩

end Access

namespace Activity

variable {act act' : Activity τ σ} {a : Access τ σ}

/-! ### Steps of an activity -/

/-- The access to a holder that is under way. -/
def access? : Activity τ σ → Option (Access τ σ)
  | .requesting _ a | .accessing a | .clearing a _ => some a
  | _ => none

/-- What an activity becomes when its access has taken a step. -/
def onward : Activity τ σ → Access.Next τ σ → Activity τ σ
  | .requesting p _, .inl a => .requesting p a
  | .requesting p a, .inr o => .returning p a.holder o
  | .accessing _, .inl a => .accessing a
  | .accessing _, .inr o => .finished (.accessed o)
  | .clearing _ urls, .inl a => .clearing a urls
  | .clearing _ urls, .inr _ => .sweeping urls
  | act, _ => act

theorem access?_onward (ha : act.access? = some a) (n : Access.Next τ σ) :
    (act.onward n).access? = n.getLeft? := by
  cases act <;> cases ha <;> cases n <;> rfl

/-- While an access is under way, a step of an activity is a step of the access. -/
theorem step_access [Remote ρ τ σ] {g g' : Gateway ρ σ} (ha : act.access? = some a)
    (h : act.step id g = some (g', act')) :
    ∃ n, a.Step id g g' n ∧ act' = act.onward n := by
  cases act with
  | requesting p b | accessing b | clearing b urls =>
    cases ha
    simp only [step, Option.map_eq_some_iff] at h
    obtain ⟨⟨g₁, n⟩, hn, h⟩ := h
    refine ⟨n, ?_⟩
    cases n <;> cases h <;> exact ⟨Access.step_of_eq_some hn, rfl⟩
  | _ => cases ha

/-- While an access is under way, an activity takes each step of the access. -/
theorem step_of_access [Remote ρ τ σ] {g g' : Gateway ρ σ} {n : Access.Next τ σ}
    (ha : act.access? = some a) (h : a.Step id g g' n) :
    act.step id g = some (g', act.onward n) := by
  cases act with
  | requesting p b | accessing b | clearing b urls =>
    cases ha
    cases n <;> simp only [step, h.eq_some, Option.map_some] <;> rfl
  | _ => cases ha

/-! ### Steps without an access -/

/-- The steps of an activity that has no access under way. -/
inductive Quiet [Remote ρ τ σ] (id : TaskId) (g : Gateway ρ σ) :
    Activity τ σ → Gateway ρ σ × Activity τ σ → Prop where
  /-- A line that is no request is answered. -/
  | misread {line : String} {f : Fault} {g' : Gateway ρ σ} (hp : Command.parse line = .error f)
      (hc : g.Counts g') :
    Quiet id g (.beginning (.answer line)) (g', .finished (.answered (.ofFault f)))
  /-- A request to read attributes has a holder connected. -/
  | get {line : String} {get : Get} {g₁ : Gateway ρ σ} (hp : Command.parse line = .ok (.get get))
      (hc : g.Counts g₁) :
    Quiet id g (.beginning (.answer line)) (connect ⟨get, [], get.queries⟩ false false g₁)
  /-- A request to drop the connection takes its holder out of the cache. -/
  | drop {line url : String} {h : HolderId} {g₁ g' : Gateway ρ σ}
      (hp : Command.parse line = .ok (.close url)) (hc : g.Counts g₁)
      (he : g₁.evict url = (some h, g')) :
    Quiet id g (.beginning (.answer line))
      (g', .requesting .dropping { holder := h, aim := .close })
  /-- There is no connection to be dropped. -/
  | dropNone {line url : String} {g₁ g' : Gateway ρ σ}
      (hp : Command.parse line = .ok (.close url)) (hc : g.Counts g₁)
      (he : g₁.evict url = (none, g')) :
    Quiet id g (.beginning (.answer line)) (answer (.ok []) g')
  /-- A permit is asked for. -/
  | submit (line : String) :
    Quiet id g (.beginning (.submit line))
      ({ g with workers := g.workers.request id }, .queueing line)
  /-- A holder is accessed for its own sake. -/
  | access (h : HolderId) (aim : Aim) :
    Quiet id g (.beginning (.access h aim)) (g, .accessing { holder := h, aim })
  /-- A holder is taken out of the cache, to be closed. -/
  | invalidate (h : HolderId) :
    Quiet id g (.beginning (.invalidate h))
      (g.invalidate h, .clearing { holder := h, aim := .close } [])
  /-- The cached URLs are noted. -/
  | drain : Quiet id g (.beginning .drain) (g, .sweeping g.cache.keys)
  /-- There are no further URLs. -/
  | swept : Quiet id g (.sweeping []) (g, .finished (.cleared g.cache.isEmpty))
  /-- The holder of a URL is taken out of the cache, to be closed. -/
  | clear {act : Activity τ σ} {url : String} {urls : List String} {h : HolderId}
      {g' : Gateway ρ σ}
      (ha : act = .sweeping (url :: urls) ∨ act = .beginning (.evict url) ∧ urls = [])
      (he : g.evict url = (some h, g')) :
    Quiet id g act (g', .clearing { holder := h, aim := .close } urls)
  /-- A URL has no holder. -/
  | skip {act : Activity τ σ} {url : String} {urls : List String} {g' : Gateway ρ σ}
      (ha : act = .sweeping (url :: urls) ∨ act = .beginning (.evict url) ∧ urls = [])
      (he : g.evict url = (none, g')) :
    Quiet id g act (g', .sweeping urls)
  /-- An endpoint is looked for. -/
  | search {url : String} {act : Activity τ σ}
      (ha : (∃ found, act = .opening found) ∨ ∃ error, act = .finished (.remoteError error)) :
    Quiet id g (.beginning (.openSession url))
      ({ g with remote := (Remote.reach url g.remote).2 }, act)
  /-- A session is used. -/
  | useSession (x : σ) (bean attributeName : String) :
    Quiet id g (.beginning (.readSession x bean attributeName)) (g, .reading x bean attributeName)
  /-- A session is to be closed. -/
  | endSession (x : σ) : Quiet id g (.beginning (.endSession x)) (g, .ending x)
  /-- A request goes on behind an access. -/
  | resume {p : Purpose} {h : HolderId} {o : Outcome} {next : Gateway ρ σ × Activity τ σ}
      (hr : Resumed h g p o next) : Quiet id g (.returning p h o) next
  /-- A session has been opened. -/
  | opened {found : τ} {x : σ} (hr : (Remote.establish found g.remote).1 = .ok x) :
    Quiet id g (.opening found)
      ({ g with remote := (Remote.establish found g.remote).2 }, .finished (.opened x))
  /-- No session could be opened. -/
  | unopened {found : τ} {error : RemoteError}
      (hr : (Remote.establish found g.remote).1 = .error error) :
    Quiet id g (.opening found)
      ({ g with remote := (Remote.establish found g.remote).2 }, .finished (.remoteError error))
  /-- An attribute has been read, or could not be. -/
  | read {x : σ} {bean attributeName : String} {r : Result σ}
      (hr : (∃ v, r = .read v) ∨ ∃ error, r = .remoteError error) :
    Quiet id g (.reading x bean attributeName)
      ({ g with remote := (Remote.read x bean attributeName g.remote).2 }, .finished r)
  /-- A session has been closed. -/
  | ended {x : σ} {r : Result σ} (hr : r = .ended ∨ ∃ error, r = .remoteError error) :
    Quiet id g (.ending x) ({ g with remote := (Remote.close x g.remote).2 }, .finished r)

section
variable [Remote ρ τ σ] {g : Gateway ρ σ} {next : Gateway ρ σ × Activity τ σ}

theorem quiet_beginLine (line : String) :
    Quiet id g (.beginning (.answer line)) (beginLine (τ := τ) line g) := by
  have hcount : ∀ f, g.Counts ({ g with commands := g.commands + 1 }.count f) :=
    fun _ => ⟨rfl, rfl, rfl⟩
  simp only [beginLine]
  split
  · next f hp => exact .misread hp (hcount _)
  · next get hp => exact .get hp (hcount _)
  · next url hp =>
    split
    · next he => exact .drop hp (hcount _) he
    · next he => exact .dropNone hp (hcount _) he

theorem quiet_sweep {url : String} {urls : List String}
    (ha : act = .sweeping (url :: urls) ∨ act = .beginning (.evict url) ∧ urls = []) :
    Quiet id g act (sweep g (url :: urls)) := by
  rw [sweep]
  split
  · next he => exact .clear ha he
  · next he => exact .skip ha he

theorem quiet_begin (op : Operation σ) : Quiet id g (.beginning op) (begin id op g) := by
  cases op with
  | answer line => exact quiet_beginLine line
  | submit line => exact .submit line
  | access h aim => exact .access h aim
  | evict url => exact quiet_sweep (.inr ⟨rfl, rfl⟩)
  | invalidate h => exact .invalidate h
  | drain => exact .drain
  | openSession url =>
    simp only [begin]
    split
    · exact .search (.inl ⟨_, rfl⟩)
    · exact .search (.inr ⟨_, rfl⟩)
  | readSession x bean attributeName => exact .useSession x bean attributeName
  | endSession x => exact .endSession x

/-- **While no access is under way**, an activity takes no other steps. -/
theorem quiet_of_step (ha : act.access? = none) (h : act.step id g = some next) :
    Quiet id g act next := by
  cases act with
  | beginning op =>
    cases h
    exact quiet_begin op
  | queueing line | finished r => cases h
  | returning p h₀ o =>
    cases h
    exact .resume (resumed_resume p h₀ o g)
  | sweeping urls =>
    cases h
    cases urls with
    | nil => exact .swept
    | cons url urls => exact quiet_sweep (.inl rfl)
  | opening found =>
    cases h
    split
    · next hr => exact .opened hr
    · next hr => exact .unopened hr
  | reading x bean attributeName =>
    cases h
    split
    · exact .read (.inl ⟨_, rfl⟩)
    · exact .read (.inr ⟨_, rfl⟩)
  | ending x =>
    cases h
    split
    · exact .ended (.inl rfl)
    · exact .ended (.inr ⟨_, rfl⟩)
  | requesting p a | accessing a | clearing a urls => cases ha

/-- The gateway evolves, and an access that is begun stands at its beginning. -/
structure Follows (g : Gateway ρ σ) (next : Gateway ρ σ × Activity τ σ) : Prop where
  /-- The gateway evolves. -/
  evolves : g.Evolves next.1
  /-- An access that is begun stands at its beginning. -/
  fresh : ∀ a, next.2.access? = some a → a.stage = .beginning

omit [Remote ρ τ σ] in
theorem evolves_answer (r : Response) (g : Gateway ρ σ) :
    g.Evolves (answer (τ := τ) r g).1 :=
  (g.counts_count fun m => { m with latencies := m.latencies + 1 }).evolves

omit [Remote ρ τ σ] in
theorem Turn.follows {h : HolderId} {r : Reading} {inside : Bool} {failed : Fault → Prop}
    (ht : Turn h r inside failed g next) : Follows g next := by
  cases ht with
  | done hc lines =>
    exact ⟨hc.evolves.trans (evolves_answer _ _), fun _ h => by cases h⟩
  | fetch hc => exact ⟨hc.evolves, fun _ h => by cases h; rfl⟩
  | giveUp hc f =>
    exact ⟨(hc.evolves.trans (Gateway.counts_count _ _).evolves).trans
      (Gateway.evolves_invalidate _ h), fun _ h => by cases h; rfl⟩

omit [Remote ρ τ σ] in
theorem Resumed.follows {p : Purpose} {h : HolderId} {o : Outcome}
    (hr : Resumed h g p o next) : Follows g next := by
  cases hr with
  | reconnect | refresh => exact ⟨g.evolves_acquire _, fun _ h => by cases h; rfl⟩
  | refuse | gaveUp | dropped => exact ⟨evolves_answer _ g, fun _ h => by cases h⟩
  | goOn _ ht | settle _ ht => exact ht.follows

/-- The gateway evolves when a step is taken without an access, apart from what is asked of the
remote side. -/
theorem Quiet.follows (h : Quiet id g act next) :
    ∃ remote, Follows { g with remote } next := by
  cases h with
  | misread hp hc => exact ⟨g.remote, hc.evolves, fun _ h => by cases h⟩
  | get hp hc =>
    exact ⟨g.remote, hc.evolves.trans (Gateway.evolves_acquire _ _), fun _ h => by cases h; rfl⟩
  | drop hp hc he =>
    exact ⟨g.remote, hc.evolves.trans (Gateway.evolves_evict he), fun _ h => by cases h; rfl⟩
  | dropNone hp hc he =>
    exact ⟨g.remote, (hc.evolves.trans (Gateway.evolves_evict he)).trans
      (evolves_answer _ _), fun _ h => by cases h⟩
  | submit line => exact ⟨g.remote, g.evolves_workers _, fun _ h => by cases h⟩
  | access h aim => exact ⟨g.remote, .refl g, fun _ h => by cases h; rfl⟩
  | invalidate h => exact ⟨g.remote, g.evolves_invalidate h, fun _ h => by cases h; rfl⟩
  | drain | swept | useSession | endSession => exact ⟨g.remote, .refl g, fun _ h => by cases h⟩
  | clear ha he => exact ⟨g.remote, Gateway.evolves_evict he, fun _ h => by cases h; rfl⟩
  | skip ha he => exact ⟨g.remote, Gateway.evolves_evict he, fun _ h => by cases h⟩
  | search ha =>
    refine ⟨_, Gateway.evolves_of_eq rfl rfl rfl, fun a h => ?_⟩
    obtain ⟨found, rfl⟩ | ⟨error, rfl⟩ := ha <;> cases h
  | resume hr => exact ⟨g.remote, hr.follows⟩
  | opened | unopened | read | ended =>
    exact ⟨_, Gateway.evolves_of_eq rfl rfl rfl, fun _ h => by cases h⟩

end

end Activity

end AttributeGateway
