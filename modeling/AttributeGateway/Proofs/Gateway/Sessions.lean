import AttributeGateway.Proofs.Gateway.Handovers

/-!
# Sessions outlive the reads through them

A session that a holder has belongs to that holder alone until somebody closes the holder. Then it
passes into the hands of the closing task, which is the only one to close it, and does so when
nobody reads through the holder any more.

* `Handles` — what a step does to sessions and links: a session is opened for a holder or for a
  task, passes from a holder to a task, or is closed by the task.
* `System.Owned` — a session is connected to one holder and open, or is in the hands of tasks.
* `sessions_outlive_reads` — over endpoints in memory no read meets a closed session, no session is
  closed under a read, and a task that has closed a holder leaves neither an open session nor a read
  behind.
-/

namespace AttributeGateway

/-! ### Sessions change hands -/

/-- What a step does to sessions and links, for a task that had one session in its hands before, if
any, and has one afterwards, if any. -/
inductive Handles (g g' : Gateway Registry Nat) (before after : Option Nat) : Prop where
  /-- Nothing, but that it may lay a session aside. -/
  | keep (hr : g'.remote.sessions = g.remote.sessions)
      (hl : ∀ h x, g'.link h = .connected x ↔ g.link h = .connected x)
      (ha : after = none ∨ after = before)
  /-- A session is opened for a holder. -/
  | connect (h : HolderId) (i : Nat) (url : String)
      (hr : g'.remote.sessions = g.remote.sessions ++ [⟨i, url, false⟩])
      (hl : g'.link h = .connected g.remote.sessions.length)
      (ho : ∀ h', h' ≠ h → g'.link h' = g.link h') (ha : after = none)
  /-- A session is opened for a task. -/
  | obtain (i : Nat) (url : String)
      (hr : g'.remote.sessions = g.remote.sessions ++ [⟨i, url, false⟩])
      (hl : ∀ h, g'.link h = g.link h) (ha : after = some g.remote.sessions.length)
  /-- The session of a holder that is closed passes to the task. -/
  | take (h : HolderId) (x : Nat) (hr : g'.remote.sessions = g.remote.sessions)
      (hl : g.link h = .connected x) (hl' : g'.link h = .closed)
      (ho : ∀ h', h' ≠ h → g'.link h' = g.link h') (ha : after = some x)
  /-- The session of the task is closed. -/
  | close (x : Nat) (hb : before = some x) (hr : g'.remote = g.remote.closeSession x)
      (hl : ∀ h, g'.link h = g.link h) (ha : after = none)

/-- Whatever passes through hands, what happens to sessions and links is one of these. -/
theorem Handover.handles {g g' : Gateway Registry Nat} {before after : Hand}
    (h : Handover g g' before after) : Handles g g' before.session? after.session? := by
  -- A session that is opened is the next one.
  have hopened {found : Registry.Found} {x : Nat}
      (he : (Remote.establish found g.remote).1 = .ok x)
      (hr : g'.remote = (Remote.establish found g.remote).2) :
      x = g.remote.sessions.length ∧
        g'.remote.sessions = g.remote.sessions ++ [⟨found.1, found.2, false⟩] := by
    obtain ⟨hx, hs⟩ := Registry.establish_eq_ok he
    exact ⟨hx, by rw [hr, hs]⟩
  cases h with
  | keep hr hl ha =>
    refine .keep hr.sessions hl ?_
    cases ha with
    | drop | find => exact .inl rfl
    | use | finish => exact .inr rfl
  | connect h he hr hl hl' ho =>
    obtain ⟨rfl, hs⟩ := hopened he hr
    exact .connect h _ _ hs hl' ho rfl
  | obtain he hr hl =>
    obtain ⟨rfl, hs⟩ := hopened he hr
    exact .obtain _ _ hs hl rfl
  | take h hr hl hl' ho => exact .take h _ (congrArg Registry.sessions hr) hl hl' ho rfl
  | close hb hr hl => exact .close _ (by rcases hb with rfl | rfl <;> rfl) hr hl rfl

namespace System

variable {s s' u : System Registry Registry.Found Nat} {id : TaskId} {h h' : HolderId} {x : Nat}
  {e : Event Registry Nat} {es : List (Event Registry Nat)}

/-- A session in the hands of a task. -/
def Loose (s : System Registry Registry.Found Nat) (x : Nat) : Prop :=
  ∃ id t, s.task? id = some t ∧ t.activity.loose? = some x

/-- Holders and sessions that an event names have been handed out. Endpoints change without their
sessions; and closing a session, for which nothing is waited, is not interrupted. -/
def Undisturbed (s : System Registry Registry.Found Nat) (e : Event Registry Nat) : Prop :=
  Knows s e ∧
    match e with
    | .alter change => (change s.gateway.remote).sessions = s.gateway.remote.sessions
    | .abandon id => ∀ a x, s.access? id = some a → a.stage ≠ .ending x
    | _ => True

/-- Sessions pass from one task or holder to another. -/
def Trade (s s' : System Registry Registry.Found Nat) : Prop :=
  ∃ before after, Handles s.gateway s'.gateway before after ∧ (∀ x, before = some x → Loose s x) ∧
    ∀ x, Loose s' x → Loose s x ∨ after = some x

/-- Nothing happens to sessions, and no task gets one in its hands. -/
theorem trade_of_same (hr : s'.gateway.remote.sessions = s.gateway.remote.sessions)
    (hl : ∀ h, s'.gateway.link h = s.gateway.link h) (hx : ∀ x, Loose s' x → Loose s x) :
    Trade s s' :=
  ⟨none, none, .keep hr (fun h x => by rw [hl]) (.inl rfl), nofun, fun x h => .inl (hx x h)⟩

theorem loose_iff : Loose s x ↔ ∃ id, (s.hand id).session? = some x := by
  constructor
  · rintro ⟨id, t, ht, hx⟩
    refine ⟨id, ?_⟩
    rw [hand_of_task? ht, ← Activity.loose?_eq, hx]
  · rintro ⟨id, hx⟩
    cases ht : s.task? id with
    | none =>
      rw [hand, ht] at hx
      cases hx
    | some t =>
      rw [hand_of_task? ht, ← Activity.loose?_eq] at hx
      exact ⟨id, t, ht, hx⟩

theorem trade_of_advance? (hs : Disciplined s) (he : s.advance? id = some s') : Trade s s' := by
  obtain ⟨hh, ho⟩ := handover_of_advance? hs he
  refine ⟨_, _, hh.handles, fun x hx => loose_iff.2 ⟨id, hx⟩, fun x hx => ?_⟩
  obtain ⟨id', hx⟩ := loose_iff.1 hx
  by_cases hid : id' = id
  · rw [hid] at hx
    exact .inr hx
  · rw [ho id' hid] at hx
    exact .inl (loose_iff.2 ⟨id', hx⟩)

/-- A session that is the result of a task is in its hands. -/
theorem loose_of_result? (hx : s.result? id = some (.opened x)) : Loose s x := by
  obtain ⟨t, ht, hr⟩ := Option.bind_eq_some_iff.1 hx
  refine ⟨id, t, ht, ?_⟩
  cases hact : t.activity <;> rw [hact] at hr <;> cases hr
  rfl

theorem trade_of_begin {op : Operation Nat} (hk : Knows s (.begin op : Event Registry Nat)) :
    Trade s (s.begin op) := by
  refine trade_of_same rfl (fun _ => rfl) ?_
  rintro x ⟨id', t₁, ht₁, hx⟩
  rw [task?_begin] at ht₁
  split at ht₁
  · -- A session that is named is the result of a task.
    cases ht₁
    cases op with
    | readSession y bean attributeName | endSession y =>
      cases hx
      obtain ⟨id, hid⟩ := hk
      exact loose_of_result? hid
    | _ => cases hx
  · exact ⟨id', t₁, ht₁, hx⟩

theorem trade_of_abandon (s : System Registry Registry.Found Nat) (id : TaskId) :
    Trade s (s.abandon id) := by
  rcases abandon_cases s id with ⟨-, hs⟩ | ⟨t, ht, hs⟩
  · rw [hs]
    exact trade_of_same rfl (fun _ => rfl) fun _ h => h
  · have hg : (s.abandon id).gateway = t.abandon id s.gateway := by rw [hs]
    have htasks : (s.abandon id).tasks = s.tasks.set id none := by rw [hs]
    rw [Task.abandon_eq] at hg
    refine trade_of_same ?_ (fun h => ?_) ?_
    · rw [hg]
      cases t.activity.access? <;> rfl
    · rw [hg]
      cases t.activity.access? with
      | none => rfl
      | some a => exact Gateway.link_modifyLock s.gateway a.holder h (·.leave id)
    · rintro x ⟨id', t₁, ht₁, hx⟩
      rw [task?_of_set ht htasks] at ht₁
      split at ht₁
      · cases ht₁
      · exact ⟨id', t₁, ht₁, hx⟩

/-- **What an event does to sessions**: they pass from one task or holder to another. -/
theorem trade_of_after? (hs : Disciplined s) (hu : Undisturbed s e) (he : s.after? e = some s') :
    Trade s s' := by
  cases e with
  | advance id => exact trade_of_advance? hs he
  | begin op =>
    cases he
    exact trade_of_begin hu.1
  | abandon id =>
    cases he
    exact trade_of_abandon s id
  | acquire url =>
    cases he
    have hg := s.gateway.evolves_acquire url
    exact trade_of_same (congrArg Registry.sessions hg.remote) hg.link fun _ h => h
  | addHolder url =>
    cases he
    have hg := s.gateway.evolves_addHolder url
    exact trade_of_same (congrArg Registry.sessions hg.remote) hg.link fun _ h => h
  | alter change =>
    cases he
    exact trade_of_same hu.2 (fun _ => rfl) fun _ h => h
  | withdraw =>
    cases he
    exact trade_of_same rfl (fun _ => rfl) fun _ h => h

/-! ### Who has a session -/

/-- A session is connected to one holder, or is in the hands of tasks. -/
structure Owned (s : System Registry Registry.Found Nat) : Prop where
  /-- The session of a holder is open. -/
  opened : ∀ {h x}, s.gateway.link h = .connected x → s.gateway.remote.IsOpen x
  /-- Holders have sessions of their own. -/
  unique : ∀ {h h' x}, s.gateway.link h = .connected x → s.gateway.link h' = .connected x → h = h'
  /-- No holder has a session that is in the hands of a task. -/
  apart : ∀ {h x}, Loose s x → s.gateway.link h ≠ .connected x
  /-- A session that is in the hands of a task has been opened. -/
  known : ∀ {x}, Loose s x → x < s.gateway.remote.sessions.length

/-- Nothing but that sessions may be laid aside. -/
theorem Owned.keep (ho : Owned s) (hr : s'.gateway.remote.sessions = s.gateway.remote.sessions)
    (hl : ∀ h x, s'.gateway.link h = .connected x ↔ s.gateway.link h = .connected x)
    (hx : ∀ {x}, Loose s' x → Loose s x) : Owned s' := by
  constructor
  · intro h' y hk
    exact (Registry.isOpen_congr hr).2 (ho.opened ((hl _ _).1 hk))
  · intro h₁ h₂ y hk hk'
    exact ho.unique ((hl _ _).1 hk) ((hl _ _).1 hk')
  · intro h' y h hk
    exact ho.apart (hx h) ((hl _ _).1 hk)
  · intro y h
    rw [hr]
    exact ho.known (hx h)

/-- A session is opened for a holder. -/
theorem Owned.connect (ho : Owned s) {i : Nat} {url : String}
    (hr : s'.gateway.remote.sessions = s.gateway.remote.sessions ++ [⟨i, url, false⟩])
    (hl : s'.gateway.link h = .connected s.gateway.remote.sessions.length)
    (hother : ∀ h', h' ≠ h → s'.gateway.link h' = s.gateway.link h')
    (hx : ∀ {x}, Loose s' x → Loose s x) : Owned s' := by
  -- The new session is none of those before.
  have hcases : ∀ {h' x}, s'.gateway.link h' = .connected x →
      h' = h ∧ x = s.gateway.remote.sessions.length ∨
        h' ≠ h ∧ s.gateway.link h' = .connected x := by
    intro h' x hk
    by_cases hh : h' = h
    · subst hh
      rw [hl] at hk
      cases hk
      exact .inl ⟨rfl, rfl⟩
    · exact .inr ⟨hh, (hother h' hh).symm.trans hk⟩
  constructor
  · intro h' y hk
    rw [Registry.isOpen_append hr]
    rcases hcases hk with ⟨-, hx⟩ | ⟨-, hk⟩
    · exact .inr hx
    · exact .inl (ho.opened hk)
  · intro h₁ h₂ y hk hk'
    rcases hcases hk with ⟨rfl, hx⟩ | ⟨-, hk⟩ <;> rcases hcases hk' with ⟨rfl, hx'⟩ | ⟨-, hk'⟩
    · rfl
    · exact absurd hx (Nat.ne_of_lt (ho.opened hk').lt)
    · exact absurd hx' (Nat.ne_of_lt (ho.opened hk).lt)
    · exact ho.unique hk hk'
  · intro h' y h hk
    rcases hcases hk with ⟨-, hlen⟩ | ⟨-, hk⟩
    · exact absurd hlen (Nat.ne_of_lt (ho.known (hx h)))
    · exact ho.apart (hx h) hk
  · intro y h
    rw [hr, List.length_append]
    exact Nat.lt_add_right _ (ho.known (hx h))

/-- A session is opened for a task. -/
theorem Owned.obtain (ho : Owned s) {i : Nat} {url : String}
    (hr : s'.gateway.remote.sessions = s.gateway.remote.sessions ++ [⟨i, url, false⟩])
    (hl : ∀ h, s'.gateway.link h = s.gateway.link h)
    (hx : ∀ {x}, Loose s' x → Loose s x ∨ s.gateway.remote.sessions.length = x) : Owned s' := by
  constructor
  · intro h' y hk
    rw [hl] at hk
    exact (Registry.isOpen_append hr).2 (.inl (ho.opened hk))
  · intro h₁ h₂ y hk hk'
    rw [hl] at hk hk'
    exact ho.unique hk hk'
  · intro h' y h hk
    rw [hl] at hk
    rcases hx h with h | hlen
    · exact ho.apart h hk
    · exact absurd hlen.symm (Nat.ne_of_lt (ho.opened hk).lt)
  · intro y h
    rw [hr, List.length_append, List.length_singleton, Nat.lt_succ_iff]
    rcases hx h with h | hlen
    · exact Nat.le_of_lt (ho.known h)
    · exact Nat.le_of_eq hlen.symm

/-- The session of a holder that is closed passes to a task. -/
theorem Owned.take (ho : Owned s) (hr : s'.gateway.remote.sessions = s.gateway.remote.sessions)
    (hl : s.gateway.link h = .connected x) (hl' : s'.gateway.link h = .closed)
    (hother : ∀ h', h' ≠ h → s'.gateway.link h' = s.gateway.link h')
    (hx : ∀ {y}, Loose s' y → Loose s y ∨ x = y) : Owned s' := by
  have hcases : ∀ {h' y}, s'.gateway.link h' = .connected y →
      h' ≠ h ∧ s.gateway.link h' = .connected y := by
    intro h' y hk
    by_cases hh : h' = h
    · rw [hh, hl'] at hk
      cases hk
    · exact ⟨hh, (hother h' hh).symm.trans hk⟩
  constructor
  · intro h' y hk
    exact (Registry.isOpen_congr hr).2 (ho.opened (hcases hk).2)
  · intro h₁ h₂ y hk hk'
    exact ho.unique (hcases hk).2 (hcases hk').2
  · intro h' y h hk
    obtain ⟨hne, hk⟩ := hcases hk
    rcases hx h with h | rfl
    · exact ho.apart h hk
    · exact hne (ho.unique hk hl)
  · intro y h
    rw [hr]
    rcases hx h with h | rfl
    · exact ho.known h
    · exact (ho.opened hl).lt

/-- The session of a task is closed. -/
theorem Owned.close (ho : Owned s) (hy : Loose s x)
    (hr : s'.gateway.remote = s.gateway.remote.closeSession x)
    (hl : ∀ h, s'.gateway.link h = s.gateway.link h) (hx : ∀ {y}, Loose s' y → Loose s y) :
    Owned s' := by
  constructor
  · intro h' y hk
    rw [hl] at hk
    rw [hr, Registry.isOpen_closeSession]
    refine ⟨ho.opened hk, ?_⟩
    rintro rfl
    exact ho.apart hy hk
  · intro h₁ h₂ y hk hk'
    rw [hl] at hk hk'
    exact ho.unique hk hk'
  · intro h' y h hk
    rw [hl] at hk
    exact ho.apart (hx h) hk
  · intro y h
    rw [hr, Registry.length_sessions_closeSession]
    exact ho.known (hx h)

/-- **However sessions pass**, each still has one owner. -/
theorem Owned.trade (ho : Owned s) (ht : Trade s s') : Owned s' := by
  obtain ⟨before, after, hh, hb, hx⟩ := ht
  have hnone : after = none → ∀ {x}, Loose s' x → Loose s x := by
    rintro rfl x h
    exact (hx x h).resolve_right nofun
  have hsome : ∀ {y}, after = some y → ∀ {x}, Loose s' x → Loose s x ∨ y = x := by
    rintro y rfl x h
    exact (hx x h).imp_right Option.some.inj
  cases hh with
  | keep hr hl ha =>
    refine ho.keep hr hl fun {x} h => ?_
    rcases ha with ha | ha
    · exact hnone ha h
    · exact (hx x h).elim id fun h => hb x (ha.symm.trans h)
  | connect h i url hr hl hother ha => exact ho.connect hr hl hother (hnone ha)
  | obtain i url hr hl ha => exact ho.obtain hr hl (hsome ha)
  | take h x hr hl hl' hother ha => exact ho.take hr hl hl' hother (hsome ha)
  | close x hy hr hl ha => exact ho.close (hb x hy) hr hl (hnone ha)

theorem Owned.after? (ho : Owned s) (hs : Disciplined s) (hu : Undisturbed s e)
    (he : s.after? e = some s') : Owned s' := ho.trade (trade_of_after? hs hu he)

/-- A session that an event closes was in the hands of a task. -/
theorem loose_of_closes (hs : Disciplined s) (hu : Undisturbed s e) (he : s.after? e = some s')
    (hx : s.gateway.remote.IsOpen x) (hx' : ¬ s'.gateway.remote.IsOpen x) : Loose s x := by
  obtain ⟨before, after, hh, hb, -⟩ := trade_of_after? hs hu he
  cases hh with
  | keep hr | take _ _ hr => exact absurd ((Registry.isOpen_congr hr).2 hx) hx'
  | connect _ _ _ hr | obtain _ _ hr =>
    exact absurd ((Registry.isOpen_append hr).2 (.inl hx)) hx'
  | close y hy hr =>
    rw [hr, Registry.isOpen_closeSession] at hx'
    obtain rfl : x = y := not_not.1 fun hne => hx' ⟨hx, hne⟩
    exact hb x hy

/-- A session that has been closed stays closed. -/
theorem isClosed_after? (hs : Disciplined s) (hu : Undisturbed s e) (he : s.after? e = some s')
    (hx : s.gateway.remote.IsClosed x) : s'.gateway.remote.IsClosed x := by
  obtain ⟨before, after, hh, -, -⟩ := trade_of_after? hs hu he
  cases hh with
  | keep hr | take _ _ hr => exact (Registry.isClosed_congr hr).2 hx
  | connect _ _ _ hr | obtain _ _ hr => exact (Registry.isClosed_append hr).2 hx
  | close y _ hr =>
    rw [hr]
    exact Registry.isClosed_closeSession.2 (.inl hx)

/-- What has become of a session that a holder had. -/
def Had (h : HolderId) (x : Nat) (s : System Registry Registry.Found Nat) : Prop :=
  s.gateway.link h = .connected x ∨ s.gateway.remote.IsClosed x ∨ ∃ id, EndingBy h x s id

theorem Disciplined.had_of_connected (hs : Disciplined s) (hk : s.gateway.link h = .connected x)
    (he : s.after? e = some s') : Had h x s' :=
  (hs.held_of_connected hk he).imp_right .inr

/-- The session that has passed to a task stays with it until the task closes it. -/
theorem Owned.had_of_ending (ho : Owned s) (hid : EndingBy h x s id) (hu : Undisturbed s e)
    (he : s.after? e = some s') : Had h x s' := by
  obtain ⟨a, ha, hah, hst⟩ := hid
  cases change_of_after? he with
  | @move id₁ a₁ g n _ ha₁ hstep hg hn hother =>
    by_cases hid : id = id₁
    · subst hid
      rw [ha] at ha₁
      cases ha₁
      have hloose : Loose s x := by
        obtain ⟨t, ht, hat⟩ := Option.bind_eq_some_iff.1 ha
        refine loose_iff.2 ⟨id, ?_⟩
        rw [hand_of_task? ht, Activity.hand_of_access hat, Access.hand, hst]
        rfl
      have hr : g.remote = s.gateway.remote.closeSession x := (hstep.of_ending hst).2
      refine .inr (.inl ?_)
      rw [hg]
      simp only [hr]
      exact Registry.isClosed_closeSession.2 (.inr ⟨rfl, ho.known hloose⟩)
    · exact .inr (.inr ⟨id, a, (hother id hid).trans ha, hah, hst⟩)
  | @drop id₁ a₁ _ ha₁ hg hn hother =>
    by_cases hid : id = id₁
    · subst hid
      exact absurd hst (hu.2 a x ha)
    · exact .inr (.inr ⟨id, a, (hother id hid).trans ha, hah, hst⟩)
  | quiet remote hg hother =>
    rcases hother id with hid | ⟨hid, -⟩
    · exact .inr (.inr ⟨id, a, hid.trans ha, hah, hst⟩)
    · rw [hid] at ha
      cases ha

/-- The session of a holder stays with it until it passes to a task, which closes it. -/
theorem Had.after? (hh : Had h x s) (hs : Disciplined s) (ho : Owned s) (hu : Undisturbed s e)
    (he : s.after? e = some s') : Had h x s' := by
  rcases hh with hk | hx | ⟨id, hid⟩
  · exact hs.had_of_connected hk he
  · exact .inr (.inl (isClosed_after? hs hu he hx))
  · exact ho.had_of_ending hid hu he

/-! ### Runs -/

/-- What every event keeps. -/
structure Kept (s : System Registry Registry.Found Nat) : Prop where
  disciplined : Disciplined s
  owned : Owned s

theorem Kept.after? (hs : Kept s) (hu : Undisturbed s e) (he : s.after? e = some s') : Kept s' :=
  ⟨hs.disciplined.change (change_of_after? he), hs.owned.after? hs.disciplined hu he⟩

theorem kept_of_run {remote : Registry} {workers : Permits}
    (hr : RunWhere Undisturbed (start remote workers) es s) : Kept s := by
  refine hr.preserves (fun hs hu he => Kept.after? hs hu he)
    ⟨disciplined_start remote workers, ⟨fun hk => ?_, fun hk => ?_, fun hx => ?_, fun hx => ?_⟩⟩
  · cases hk
  · cases hk
  · obtain ⟨id, t, ht, -⟩ := hx
    cases ht
  · obtain ⟨id, t, ht, -⟩ := hx
    cases ht

theorem Had.of_run (hh : Had h x s) (hs : Kept s) (hr : RunWhere Undisturbed s es s') :
    Had h x s' := by
  have hboth : Kept s' ∧ Had h x s' := by
    refine hr.preserves (I := fun u => Kept u ∧ Had h x u) ?_ ⟨hs, hh⟩
    rintro u e u' ⟨hk, hh⟩ hu he
    exact ⟨hk.after? hu he, hh.after? hk.disciplined hk.owned hu he⟩
  exact hboth.2

/-- **Sessions outlive the reads through them**, in every run over endpoints in memory: a read
through a holder is answered by the endpoint of the session that the holder has; no access fails
because a session was lost; a session is closed when no holder has it and nothing is read through
it; and once a task that closes a holder has gone on, the holder is closed, nobody reads through it,
and every session that it ever had is closed. -/
theorem sessions_outlive_reads {remote : Registry} {workers : Permits}
    (hr : RunWhere Undisturbed (start remote workers) es s) :
    (∀ id a x, s.access? id = some a → a.stage = .reading x →
      s.gateway.link a.holder = .connected x ∧ s.gateway.remote.IsOpen x ∧
        ∃ i : Nat, ∀ bean attributeName, s.gateway.remote.read x bean attributeName =
          Endpoint.read ((s.gateway.remote.endpoints[i]?).getD {}) bean attributeName) ∧
    (∀ id t o, s.task? id = some t → t.activity.outcome? = some o →
      ∀ reason, o ≠ .failed (.internal reason)) ∧
    (∀ u e u' x, Occurs (start remote workers) es u e u' →
      u.gateway.remote.IsOpen x → ¬ u'.gateway.remote.IsOpen x →
        (∀ h, u.gateway.link h ≠ .connected x) ∧
          ∀ id a, u.access? id = some a → a.stage ≠ .reading x) ∧
    ∀ u id h, Visits (start remote workers) es u → ClosingBy h u id → s.task? id ≠ none →
      ¬ ClosingBy h s id →
        s.gateway.link h = .closed ∧
        (∀ id' a, s.access? id' = some a → a.holder = h →
          a.stage ≠ .guarding ∧ ∀ x, a.stage ≠ .reading x) ∧
        ∀ v x, Visits (start remote workers) es v → v.gateway.link h = .connected x →
          s.gateway.remote.IsClosed x := by
  have hs := kept_of_run hr
  refine ⟨fun id a x ha hst => ?_, sincere_of_run hr.run, fun u e u' x hocc hx hx' => ?_,
    fun u id h hu hclosing hnot hdone => ?_⟩
  · have hf := hs.disciplined.fits ha
    rw [hst] at hf
    have hopen := hs.owned.opened hf
    exact ⟨hf, hopen, hopen.read⟩
  · obtain ⟨es₁, es₂, -, hu, hP, -⟩ := hr.split hocc
    have hk := kept_of_run hu
    have hloose := loose_of_closes hk.disciplined hP hocc.after?_eq hx hx'
    refine ⟨fun h => hk.owned.apart hloose, fun id a ha hst => ?_⟩
    have hf := hk.disciplined.fits ha
    rw [hst] at hf
    exact hk.owned.apart hloose hf
  · obtain ⟨es₁, es₂, hru, hrs⟩ := hr.visits hu
    obtain ⟨hclosed, hending⟩ : Done h s := by
      rcases hclosing.of_run (kept_of_run hru).disciplined hrs.run with hc | hg | hd
      · exact absurd hc hdone
      · exact absurd hg.1 hnot
      · exact hd
    refine ⟨hclosed, fun id' a ha hah => ?_, fun v x hv hk => ?_⟩
    · have hf := hs.disciplined.fits ha
      rw [hah, hclosed] at hf
      refine ⟨fun hst => ?_, fun x hst => ?_⟩ <;> rw [hst] at hf
      · obtain ⟨x, hx⟩ := hf
        cases hx
      · cases hf
    · obtain ⟨es₃, es₄, hrv, hrs'⟩ := hr.visits hv
      have hhad : Had h x v := .inl hk
      rcases hhad.of_run (kept_of_run hrv) hrs' with hk' | hx | ⟨id', hid'⟩
      · rw [hclosed] at hk'
        cases hk'
      · exact hx
      · exact absurd hid' (hending id' x)

/-- An attribute is being read when somebody asks to take the holder out of the cache. -/
def readUnderEvict : List (Event Registry Nat) :=
  [.alter (·.register "u"), .begin (.answer "GET u %s b a"), .begin (.evict "u")] ++
  List.replicate 11 (.advance 0) ++ List.replicate 2 (.advance 1)

/-- The read ends, and then the holder is closed. -/
def readThenEvict : List (Event Registry Nat) :=
  readUnderEvict ++ .advance 0 :: List.replicate 3 (.advance 1)

theorem readThenEvict_closes :
    (inMemory.behind readThenEvict).gateway.link 0 = .closed ∧
    (inMemory.behind readThenEvict).gateway.remote.IsClosed 0 := by
  have hr : Run inMemory readThenEvict (inMemory.behind readThenEvict) :=
    run_behind (by decide +kernel)
  have hP : RunWhere Undisturbed inMemory readThenEvict (inMemory.behind readThenEvict) := by
    refine hr.runWhere fun u e he => ?_
    simp only [readThenEvict, readUnderEvict, List.mem_append, List.mem_cons, List.mem_replicate,
      List.not_mem_nil, or_false] at he
    rcases he with (((rfl | rfl | rfl) | ⟨-, rfl⟩) | ⟨-, rfl⟩) | rfl | ⟨-, rfl⟩
    · exact ⟨trivial, Registry.sessions_register _ _⟩
    all_goals exact ⟨trivial, trivial⟩
  have hu : Visits inMemory readThenEvict (inMemory.behind readUnderEvict) :=
    ⟨readUnderEvict, _, rfl, run_behind (by decide +kernel)⟩
  have haccess : (inMemory.behind readUnderEvict).access? 1 = some ⟨0, .close, .excluding⟩ := by
    decide +kernel
  have hsome : ((inMemory.behind readThenEvict).task? 1).isSome := by decide +kernel
  have hnone : (inMemory.behind readThenEvict).access? 1 = none := by decide +kernel
  obtain ⟨hclosed, -, hhad⟩ := (sessions_outlive_reads hP).2.2.2 _ 1 0 hu
    ⟨_, haccess, rfl, rfl⟩ (Option.isSome_iff_ne_none.1 hsome)
    (by rintro ⟨a, ha, -⟩; rw [hnone] at ha; cases ha)
  exact ⟨hclosed, hhad _ 0 hu (by decide +kernel)⟩

end System

end AttributeGateway
