import AttributeGateway.Proofs.Gateway.Handovers
import Mathlib.Data.Set.Card

/-!
# Open sessions are accounted for

Over endpoints in memory, and as long as no operation is dropped midway, every session that has been
opened is at one place: a holder is connected through it, a task that has closed the holder is about
to close it, it has been opened for a task and is still in use, or it has been closed. An event adds
a session at one place or takes one from a place to another. So the sessions that an endpoint counts
as open are those at the first three places.

* `Place`, `System.At` — the places of a session.
* `Passage` — what an event does to the places of sessions; `Sorted.passage` says that every session
  stays at one place.
* `System.Placed` — the invariant, kept by every event (`Placed.after?`).
* `System.open_sessions_accounted` — the counter of an endpoint is the number of holders that are
  connected through its sessions, of sessions that are about to be closed, and of sessions in use
  otherwise; it changes by one when a session is opened and when an open session is closed.
-/

namespace AttributeGateway

/-! ### Places -/

/-- Where a session is. -/
inductive Place where
  /-- A holder is connected through it. -/
  | held (h : HolderId)
  /-- A task has taken it from a holder and is about to close it. -/
  | closing (id : TaskId)
  /-- It has been opened for a task, and no task has closed it. -/
  | direct
  /-- It has been closed. -/
  | gone

/-- What an event does to the places of sessions, which are numbered as they are opened. -/
inductive Passage (A A' : Nat → Place → Prop) (n n' : Nat) : Prop where
  /-- All sessions stay where they are. -/
  | stay (hn : n' = n) (h : ∀ x p, A' x p ↔ A x p)
  /-- A session is opened. -/
  | arrive (p : Place) (hn : n' = n + 1) (h : ∀ x q, A' x q ↔ A x q ∨ x = n ∧ q = p)
  /-- A session goes to another place. -/
  | pass (x : Nat) (p q : Place) (hx : A x p) (hn : n' = n)
      (h : ∀ y r, A' y r ↔ A y r ∧ y ≠ x ∨ y = x ∧ r = q)

/-- Every session that has been opened is at one place. -/
structure Sorted (A : Nat → Place → Prop) (n : Nat) : Prop where
  exists_place : ∀ {x}, x < n → ∃ p, A x p
  unique : ∀ {x p q}, A x p → A x q → p = q
  lt : ∀ {x p}, A x p → x < n

/-- **However sessions pass**, each stays at one place. -/
theorem Sorted.passage {A A' : Nat → Place → Prop} {n n' : Nat} (hs : Sorted A n)
    (hp : Passage A A' n n') : Sorted A' n' := by
  cases hp with
  | stay hn h =>
    subst hn
    refine ⟨fun {x} hx => ?_, fun {x p q} hp hq => ?_, fun {x p} hp => hs.lt ((h x p).1 hp)⟩
    · obtain ⟨p, hp⟩ := hs.exists_place hx
      exact ⟨p, (h x p).2 hp⟩
    · exact hs.unique ((h x p).1 hp) ((h x q).1 hq)
  | arrive p hn h =>
    subst hn
    refine ⟨fun {x} hx => ?_, fun {x q q'} hq hq' => ?_, fun {x q} hq => ?_⟩
    · rcases Nat.lt_succ_iff_lt_or_eq.1 hx with hx | rfl
      · obtain ⟨q, hq⟩ := hs.exists_place hx
        exact ⟨q, (h x q).2 (.inl hq)⟩
      · exact ⟨p, (h x p).2 (.inr ⟨rfl, rfl⟩)⟩
    · rcases (h x q).1 hq with hq | ⟨rfl, rfl⟩ <;> rcases (h x q').1 hq' with hq' | ⟨hx, rfl⟩
      · exact hs.unique hq hq'
      · exact absurd (hs.lt hq) (by rw [hx]; exact Nat.lt_irrefl n)
      · exact absurd (hs.lt hq') (Nat.lt_irrefl x)
      · rfl
    · rcases (h x q).1 hq with hq | ⟨rfl, -⟩
      · exact Nat.lt_succ_of_lt (hs.lt hq)
      · exact Nat.lt_succ_self x
  | pass x p q hx hn h =>
    subst hn
    refine ⟨fun {y} hy => ?_, fun {y r r'} hr hr' => ?_, fun {y r} hr => ?_⟩
    · by_cases hyx : y = x
      · exact ⟨q, (h y q).2 (.inr ⟨hyx, rfl⟩)⟩
      · obtain ⟨r, hr⟩ := hs.exists_place hy
        exact ⟨r, (h y r).2 (.inl ⟨hr, hyx⟩)⟩
    · rcases (h y r).1 hr with ⟨hr, hyx⟩ | ⟨hyx, rfl⟩ <;>
        rcases (h y r').1 hr' with ⟨hr', hyx'⟩ | ⟨hyx', rfl⟩
      · exact hs.unique hr hr'
      · exact absurd hyx' hyx
      · exact absurd hyx hyx'
      · rfl
    · rcases (h y r).1 hr with ⟨hr, -⟩ | ⟨rfl, -⟩
      · exact hs.lt hr
      · exact hs.lt hx

namespace System

variable {s s' u u' : System Registry Registry.Found Nat} {id : TaskId} {h : HolderId} {x i : Nat}
  {e : Event Registry Nat} {es : List (Event Registry Nat)} {O O' E E' : Set Nat}

/-- Holders and sessions that an event names have been handed out. Endpoints change without their
sessions; and an operation is not dropped midway. -/
def Steady (s : System Registry Registry.Found Nat) (e : Event Registry Nat) : Prop :=
  Knows s e ∧
    match e with
    | .alter change => s.gateway.remote.Retains (change s.gateway.remote)
    | .abandon id => ∀ t, s.task? id = some t → t.activity.result?.isSome
    | _ => True

/-- The places of a session, when the sessions in `O` have been opened for tasks, and those in `E`
have been closed by tasks to which they had been named. -/
def At (O E : Set Nat) (s : System Registry Registry.Found Nat) (x : Nat) : Place → Prop
  | .held h => s.gateway.link h = .connected x
  | .closing id => s.hand id = .taken x
  | .direct => x ∈ O ∧ x ∉ E
  | .gone => s.gateway.remote.IsClosed x

/-- Every session is accounted for. -/
structure Placed (O E : Set Nat) (s : System Registry Registry.Found Nat) : Prop where
  disciplined : Disciplined s
  /-- Counters are the numbers of open sessions. -/
  tallied : s.gateway.remote.Tallied
  /-- Every session is at one place. -/
  sorted : Sorted (At O E s) s.gateway.remote.sessions.length
  /-- An endpoint that has been found is one that there is. -/
  found : ∀ {id found}, s.hand id = .found found →
    found.1 < s.gateway.remote.endpoints.length
  /-- A session that has been named or opened for a task has been opened for a task. -/
  named : ∀ {id x}, s.hand id = .named x ∨ s.hand id = .ending x ∨ s.hand id = .opened x → x ∈ O
  /-- A session that a task has closed stays closed. -/
  ended : ∀ {x}, x ∈ E → s.gateway.remote.IsClosed x

/-! ### What an event does to places -/

/-- How the hand of a task changes in an event that does nothing to sessions: as in a step of the
task, or because a session that has been opened for a task is named to a new one. -/
inductive Idles (O : Set Nat) (r : Registry) : Hand → Hand → Prop where
  | same (hand : Hand) : Idles O r hand hand
  | moves {before after : Hand} (h : before.Moves r after) : Idles O r before after
  | name {x : Nat} (hx : x ∈ O) : Idles O r .nothing (.named x)

theorem Idles.taken_iff {before after : Hand} {r : Registry} (h : Idles O r before after)
    (x : Nat) : after = .taken x ↔ before = .taken x := by
  cases h with
  | same => rfl
  | moves h =>
    cases h with
    | drop hb => exact ⟨nofun, fun h => absurd h (hb x).1⟩
    | find | use | finish => exact ⟨nofun, nofun⟩
  | name => exact ⟨nofun, nofun⟩

/-- An event that does nothing to sessions. -/
theorem Placed.idle (hp : Placed O E s) (hd : Disciplined s')
    (hr : s.gateway.remote.Retains s'.gateway.remote)
    (hl : ∀ h x, s'.gateway.link h = .connected x ↔ s.gateway.link h = .connected x)
    (hh : ∀ id, Idles O s.gateway.remote (s.hand id) (s'.hand id)) : Placed O E s' where
  disciplined := hd
  tallied := hp.tallied.retains hr
  sorted := by
    refine hp.sorted.passage (.stay (congrArg List.length hr.sessions) fun x p => ?_)
    cases p with
    | held h => exact hl h x
    | closing id => exact (hh id).taken_iff x
    | direct => exact Iff.rfl
    | gone => exact Registry.isClosed_congr hr.sessions
  found {id found} hf := by
    refine Nat.lt_of_lt_of_le ?_ hr.length_le
    have hid := hh id
    rw [hf] at hid
    generalize hb : s.hand id = before at hid
    cases hid with
    | same => exact hp.found hb
    | moves h =>
      cases h with
      | find h => exact hp.tallied.registered h
  named {id x} hx := by
    have hid := hh id
    generalize hb : s.hand id = before at hid
    generalize ha : s'.hand id = after at hid hx
    cases hid with
    | same => exact hp.named (by rw [hb]; exact hx)
    | moves h =>
      cases h with
      | drop | find => simp at hx
      | use y | finish y =>
        obtain rfl : y = x := by simpa using hx
        exact hp.named (.inl hb)
    | name hy =>
      obtain rfl := Hand.named.inj (by simpa using hx)
      exact hy
  ended hx := (Registry.isClosed_congr hr.sessions).2 (hp.ended hx)

/-- An event by which a session passes, while a task has got rid of what it had found. -/
theorem Placed.of_passage (hp : Placed O E s) (hd : Disciplined s')
    (ht : s'.gateway.remote.Tallied)
    (hpass : Passage (At O E s) (At O' E' s') s.gateway.remote.sessions.length
      s'.gateway.remote.sessions.length)
    (hlen : s'.gateway.remote.endpoints.length = s.gateway.remote.endpoints.length)
    (ho : ∀ id', id' ≠ id → s'.hand id' = s.hand id') (hfound : ∀ found, s'.hand id ≠ .found found)
    (hnamed : ∀ x, s'.hand id = .named x ∨ s'.hand id = .ending x ∨ s'.hand id = .opened x → x ∈ O')
    (hO : O ⊆ O') (hE : ∀ x ∈ E', s'.gateway.remote.IsClosed x) : Placed O' E' s' where
  disciplined := hd
  tallied := ht
  sorted := hp.sorted.passage hpass
  found {id' found} hf := by
    rw [hlen]
    by_cases hid : id' = id
    · rw [hid] at hf
      exact absurd hf (hfound found)
    · exact hp.found ((ho id' hid).symm.trans hf)
  named {id' x} hx := by
    by_cases hid : id' = id
    · rw [hid] at hx
      exact hnamed x hx
    · rw [ho id' hid] at hx
      exact hO (hp.named hx)
  ended hx := hE _ hx

/-- A session that is elsewhere is another one. -/
theorem Placed.ne_of_at (hp : Placed O E s) {p q : Place} {y : Nat} (hx : At O E s x p)
    (hy : At O E s y q) (hne : q ≠ p) : y ≠ x := by
  rintro rfl
  exact hne (hp.sorted.unique hy hx)

/-- A session is opened for a holder. -/
theorem Placed.connect (hp : Placed O E s) (hd : Disciplined s') {found : Registry.Found}
    (hf : s.hand id = .found found)
    (he : (Remote.establish found s.gateway.remote).1 = .ok x)
    (hr : s'.gateway.remote = (Remote.establish found s.gateway.remote).2)
    (hl : s.gateway.link h = .disconnected) (hl' : s'.gateway.link h = .connected x)
    (hlinks : ∀ h', h' ≠ h → s'.gateway.link h' = s.gateway.link h')
    (hself : s'.hand id = .nothing) (ho : ∀ id', id' ≠ id → s'.hand id' = s.hand id') :
    Placed O E s' := by
  obtain ⟨hx, hremote⟩ := Registry.establish_eq_ok he
  have hsessions : s'.gateway.remote.sessions =
      s.gateway.remote.sessions ++ [⟨found.1, found.2, false⟩] := by rw [hr, hremote]
  have hclosed (y : Nat) : s'.gateway.remote.IsClosed y ↔ s.gateway.remote.IsClosed y :=
    Registry.isClosed_append hsessions
  refine hp.of_passage hd (by rw [hr]; exact hp.tallied.establish (hp.found hf) he)
    (.arrive (.held h) (by rw [hsessions]; simp) fun y q => ?_)
    (by rw [hr, Registry.length_endpoints_establish]) ho (by rw [hself]; simp)
    (by rw [hself]; simp) (subset_refl O) fun y hy => (hclosed y).2 (hp.ended hy)
  cases q with
  | held h' =>
    by_cases hh : h' = h
    · subst hh
      simp [At, hl, hl', hx, eq_comm]
    · simp [At, hlinks h' hh, hh]
  | closing id' =>
    by_cases hid : id' = id
    · subst hid
      simp [At, hf, hself]
    · simp [At, ho id' hid]
  | direct => simp [At]
  | gone => simp [At, hclosed]

/-- A session is opened for a task. -/
theorem Placed.obtain (hp : Placed O E s) (hd : Disciplined s') {found : Registry.Found}
    (hf : s.hand id = .found found)
    (he : (Remote.establish found s.gateway.remote).1 = .ok x)
    (hr : s'.gateway.remote = (Remote.establish found s.gateway.remote).2)
    (hlinks : ∀ h, s'.gateway.link h = s.gateway.link h)
    (hself : s'.hand id = .opened x) (ho : ∀ id', id' ≠ id → s'.hand id' = s.hand id') :
    Placed (insert x O) E s' := by
  obtain ⟨hx, hremote⟩ := Registry.establish_eq_ok he
  have hsessions : s'.gateway.remote.sessions =
      s.gateway.remote.sessions ++ [⟨found.1, found.2, false⟩] := by rw [hr, hremote]
  have hclosed (y : Nat) : s'.gateway.remote.IsClosed y ↔ s.gateway.remote.IsClosed y :=
    Registry.isClosed_append hsessions
  -- The new session is none of those that have been closed.
  have hnew : x ∉ E := by
    intro hxE
    have hlt := (Registry.isClosed_iff.1 (hp.ended hxE)).1
    exact absurd hlt (by rw [hx]; exact Nat.lt_irrefl _)
  refine hp.of_passage hd (by rw [hr]; exact hp.tallied.establish (hp.found hf) he)
    (.arrive .direct (by rw [hsessions]; simp) fun y q => ?_)
    (by rw [hr, Registry.length_endpoints_establish]) ho (by rw [hself]; simp)
    (by rw [hself]; simp) (Set.subset_insert x O) fun y hy => (hclosed y).2 (hp.ended hy)
  cases q with
  | held h => simp [At, hlinks]
  | closing id' =>
    by_cases hid : id' = id
    · subst hid
      simp [At, hf, hself]
    · simp [At, ho id' hid]
  | direct =>
    subst hx
    simp only [At, Set.mem_insert_iff, and_true]
    constructor
    · rintro ⟨rfl | hy, hyE⟩
      · exact .inr rfl
      · exact .inl ⟨hy, hyE⟩
    · rintro (⟨hy, hyE⟩ | rfl)
      · exact ⟨.inr hy, hyE⟩
      · exact ⟨.inl rfl, hnew⟩
  | gone => simp [At, hclosed]

/-- The session of a holder that is closed passes to a task. -/
theorem Placed.take (hp : Placed O E s) (hd : Disciplined s')
    (hnothing : s.hand id = .nothing) (hr : s'.gateway.remote = s.gateway.remote)
    (hl : s.gateway.link h = .connected x) (hl' : s'.gateway.link h = .closed)
    (hlinks : ∀ h', h' ≠ h → s'.gateway.link h' = s.gateway.link h')
    (hself : s'.hand id = .taken x) (ho : ∀ id', id' ≠ id → s'.hand id' = s.hand id') :
    Placed O E s' := by
  have hx : At O E s x (.held h) := hl
  refine hp.of_passage hd (by rw [hr]; exact hp.tallied)
    (.pass x (.held h) (.closing id) hx (by rw [hr]) fun y q => ?_) (by rw [hr]) ho
    (by rw [hself]; simp) (by rw [hself]; simp) (subset_refl O) fun y hy => by
      rw [hr]
      exact hp.ended hy
  have hne (hy : At O E s y q) (hq : q ≠ .held h) : y ≠ x := hp.ne_of_at hx hy hq
  cases q with
  | held h' =>
    by_cases hh : h' = h
    · subst hh
      simp [At, hl, hl', eq_comm]
    · simp only [At, hlinks h' hh, reduceCtorEq, and_false, or_false]
      exact ⟨fun hy => ⟨hy, hne hy (by simpa using hh)⟩, And.left⟩
  | closing id' =>
    by_cases hid : id' = id
    · subst hid
      simp [At, hnothing, hself, eq_comm]
    · simp only [At, ho id' hid, Place.closing.injEq, hid, and_false, or_false]
      exact ⟨fun hy => ⟨hy, hne hy nofun⟩, And.left⟩
  | direct =>
    simp only [reduceCtorEq, and_false, or_false]
    exact ⟨fun hy => ⟨hy, hne hy nofun⟩, And.left⟩
  | gone =>
    simp only [At, hr, reduceCtorEq, and_false, or_false]
    exact ⟨fun hy => ⟨hy, hne hy nofun⟩, And.left⟩

/-- A session is closed that was where `p` says, and nothing else has to do with that place. -/
theorem Placed.passage_of_close (hp : Placed O E s) {p : Place} (hx : At O E s x p)
    (hgone : p ≠ .gone) (hr : s'.gateway.remote = s.gateway.remote.closeSession x)
    (h : ∀ y r, r ≠ .gone → (At O E' s' y r ↔ At O E s y r ∧ y ≠ x)) :
    Passage (At O E s) (At O E' s') s.gateway.remote.sessions.length
      s'.gateway.remote.sessions.length := by
  refine .pass x p .gone hx (by rw [hr, Registry.length_sessions_closeSession]) fun y q => ?_
  by_cases hq : q = .gone
  · subst hq
    have hlt := hp.sorted.lt hx
    simp only [At, hr, Registry.isClosed_closeSession, hlt, and_true]
    refine or_congr_left ⟨fun hy => ⟨hy, ?_⟩, And.left⟩
    exact hp.ne_of_at hx (q := .gone) hy (Ne.symm hgone)
  · simp only [h y q hq, hq, and_false, or_false]

/-- A session that a task has taken from a holder is closed. -/
theorem Placed.close (hp : Placed O E s) (hd : Disciplined s') (hb : s.hand id = .taken x)
    (hr : s'.gateway.remote = s.gateway.remote.closeSession x)
    (hlinks : ∀ h, s'.gateway.link h = s.gateway.link h)
    (hself : s'.hand id = .nothing) (ho : ∀ id', id' ≠ id → s'.hand id' = s.hand id') :
    Placed O E s' := by
  have hx : At O E s x (.closing id) := hb
  refine hp.of_passage hd (by rw [hr]; exact hp.tallied.closeSession x)
    (hp.passage_of_close hx nofun hr fun y q hq => ?_)
    (by rw [hr, Registry.length_endpoints_closeSession]) ho (by rw [hself]; simp)
    (by rw [hself]; simp) (subset_refl O) fun y hy => by
      rw [hr]
      exact Registry.isClosed_closeSession.2 (.inl (hp.ended hy))
  have hne (hy : At O E s y q) (hq : q ≠ .closing id) : y ≠ x := hp.ne_of_at hx hy hq
  cases q with
  | held h =>
    simp only [At, hlinks]
    exact ⟨fun hy => ⟨hy, hne hy nofun⟩, And.left⟩
  | closing id' =>
    by_cases hid : id' = id
    · subst hid
      simp [At, hb, hself, eq_comm]
    · simp only [At, ho id' hid]
      exact ⟨fun hy => ⟨hy, hne hy (by simpa using hid)⟩, And.left⟩
  | direct => exact ⟨fun hy => ⟨hy, hne hy nofun⟩, And.left⟩
  | gone => exact absurd rfl hq

/-- A session that has been named to a task is closed, or has been closed before. -/
theorem Placed.finish (hp : Placed O E s) (hd : Disciplined s') (hb : s.hand id = .ending x)
    (hr : s'.gateway.remote = s.gateway.remote.closeSession x)
    (hlinks : ∀ h, s'.gateway.link h = s.gateway.link h)
    (hself : s'.hand id = .nothing) (ho : ∀ id', id' ≠ id → s'.hand id' = s.hand id') :
    Placed O (insert x E) s' := by
  have hxO : x ∈ O := hp.named (.inr (.inl hb))
  -- The hand of the task held no session of a holder.
  have htaken (id' : TaskId) (y : Nat) : s'.hand id' = .taken y ↔ s.hand id' = .taken y := by
    by_cases hid : id' = id
    · subst hid
      simp [hb, hself]
    · rw [ho id' hid]
  have hlt : x < s.gateway.remote.sessions.length := by
    by_cases hxE : x ∈ E
    · exact (Registry.isClosed_iff.1 (hp.ended hxE)).1
    · exact hp.sorted.lt (p := .direct) ⟨hxO, hxE⟩
  refine hp.of_passage hd (by rw [hr]; exact hp.tallied.closeSession x) ?_
    (by rw [hr, Registry.length_endpoints_closeSession]) ho (by rw [hself]; simp)
    (by rw [hself]; simp) (subset_refl O) fun y hy => ?_
  · by_cases hxE : x ∈ E
    · -- Closing it again does nothing.
      have hr' : s'.gateway.remote = s.gateway.remote :=
        hr.trans (Registry.closeSession_of_isClosed (hp.ended hxE))
      refine .stay (by rw [hr']) fun y q => ?_
      rw [Set.insert_eq_of_mem hxE]
      cases q with
      | held h => simp [At, hlinks]
      | closing id' => exact htaken id' y
      | direct => exact Iff.rfl
      | gone => simp [At, hr']
    · have hx : At O E s x .direct := ⟨hxO, hxE⟩
      refine hp.passage_of_close hx nofun hr fun y q hq => ?_
      have hne (hy : At O E s y q) (hq : q ≠ .direct) : y ≠ x := hp.ne_of_at hx hy hq
      cases q with
      | held h =>
        simp only [At, hlinks]
        exact ⟨fun hy => ⟨hy, hne hy nofun⟩, And.left⟩
      | closing id' =>
        simp only [At, htaken]
        exact ⟨fun hy => ⟨hy, hne hy nofun⟩, And.left⟩
      | direct =>
        simp only [At, Set.mem_insert_iff, not_or]
        exact ⟨fun hy => ⟨⟨hy.1, hy.2.2⟩, hy.2.1⟩, fun hy => ⟨hy.1.1, hy.2, hy.1.2⟩⟩
      | gone => exact absurd rfl hq
  · rw [hr, Registry.isClosed_closeSession]
    rcases hy with rfl | hy
    · exact .inr ⟨rfl, hlt⟩
    · exact .inl (hp.ended hy)

/-- A step of a task. -/
theorem Placed.advance (hp : Placed O E s) (hd : Disciplined s')
    (hh : Handover s.gateway s'.gateway (s.hand id) (s'.hand id))
    (ho : ∀ id', id' ≠ id → s'.hand id' = s.hand id') :
    Placed (O ∪ {x | s'.hand id = .opened x}) (E ∪ {x | s.hand id = .ending x}) s' := by
  have hO (hno : ∀ x, s'.hand id ≠ .opened x) : O ∪ {x | s'.hand id = .opened x} = O := by
    ext x
    simp [hno x]
  have hE (hno : ∀ x, s.hand id ≠ .ending x) : E ∪ {x | s.hand id = .ending x} = E := by
    ext x
    simp [hno x]
  generalize hb : s.hand id = before at hh
  generalize ha : s'.hand id = after at hh
  rw [hb] at hE
  rw [ha] at hO
  cases hh with
  | keep hr hl hm =>
    have hkept : Placed O E s' := hp.idle hd hr hl fun id' => by
      by_cases hid : id' = id
      · rw [hid, hb, ha]
        exact .moves hm
      · rw [ho id' hid]
        exact .same _
    have hno : (∀ x, after ≠ .opened x) ∧ ∀ x, before ≠ .ending x := by
      cases hm with
      | drop hb => exact ⟨nofun, fun x => (hb x).2⟩
      | find | use | finish => exact ⟨nofun, nofun⟩
    rw [hO hno.1, hE hno.2]
    exact hkept
  | connect h he hr hl hl' hlinks =>
    rw [hO nofun, hE nofun]
    exact hp.connect hd hb he hr hl hl' hlinks ha ho
  | @obtain found x he hr hlinks =>
    have hinsert : O ∪ {y | Hand.opened x = .opened y} = insert x O := by
      ext y
      simp [eq_comm]
    rw [hinsert, hE nofun]
    exact hp.obtain hd hb he hr hlinks ha ho
  | take h hr hl hl' hlinks =>
    rw [hO nofun, hE nofun]
    exact hp.take hd hb hr hl hl' hlinks ha ho
  | @close _ x hb' hr hlinks =>
    rw [hO nofun]
    rcases hb' with rfl | rfl
    · rw [hE nofun]
      exact hp.close hd hb hr hlinks ha ho
    · have hinsert : E ∪ {y | Hand.ending x = .ending y} = insert x E := by
        ext y
        simp [eq_comm]
      rw [hinsert]
      exact hp.finish hd hb hr hlinks ha ho

/-- Nothing but a step of a task changes sessions and counters. -/
theorem retains_of_after? (hst : Steady s e) (he : s.after? e = some s')
    (hne : ∀ id, e ≠ .advance id) : s.gateway.remote.Retains s'.gateway.remote := by
  have hsame (hr : s'.gateway.remote = s.gateway.remote) :
      s.gateway.remote.Retains s'.gateway.remote := by
    rw [hr]
    exact .refl _
  cases e with
  | advance id => exact absurd rfl (hne id)
  | alter change =>
    cases he
    exact hst.2
  | abandon id =>
    cases he
    rcases abandon_cases s id with ⟨-, hs⟩ | ⟨t, -, hs⟩
    · exact hsame (by rw [hs])
    · refine hsame ?_
      rw [hs, Task.abandon_eq]
      cases t.activity.access? <;> rfl
  | begin op | withdraw =>
    cases he
    exact .refl _
  | acquire url =>
    cases he
    exact hsame (s.gateway.evolves_acquire url).remote
  | addHolder url =>
    cases he
    exact hsame (s.gateway.evolves_addHolder url).remote

/-- The hand of a task that has ended is empty once it is dropped. -/
theorem idles_abandon (O : Set Nat) (r : Registry)
    (hend : ∀ t, s.task? id = some t → t.activity.result?.isSome) (id' : TaskId) :
    Idles O r (s.hand id') ((s.abandon id).hand id') := by
  rcases abandon_cases s id with ⟨-, hs⟩ | ⟨t, ht, hs⟩
  · rw [hs]
    exact .same _
  · have htasks : (s.abandon id).tasks = s.tasks.set id none := by rw [hs]
    have htask := task?_of_set ht htasks
    by_cases hid : id' = id
    · have hafter : (s.abandon id).hand id' = .nothing := by
        rw [hand, htask, if_pos hid]
        rfl
      obtain ⟨r', hr⟩ := Option.isSome_iff_exists.1 (hend t ht)
      have hact : t.activity = .finished r' := by
        cases hact : t.activity <;> rw [hact] at hr <;> cases hr
        rfl
      rw [hafter, hid, hand_of_task? ht, hact]
      refine .moves (.drop fun x => ?_)
      simp [Activity.hand_eq_taken_iff, Activity.hand_eq_ending_iff, Activity.access?]
    · have hsame : (s.abandon id).hand id' = s.hand id' := by rw [hand, hand, htask, if_neg hid]
      rw [hsame]
      exact .same _

/-- A task that begins has nothing in its hands, or a session that has been opened for a task. -/
theorem Placed.idles_begin (hp : Placed O E s) {op : Operation Nat}
    (hk : Knows s (.begin op : Event Registry Nat)) (r : Registry) (id : TaskId) :
    Idles O r (s.hand id) ((s.begin op).hand id) := by
  by_cases hid : id = s.tasks.length
  · have hbefore : s.hand id = .nothing := by
      rw [hand, hid, task?, List.getElem?_eq_none (Nat.le_refl _)]
      rfl
    have hafter : (s.begin op).hand id = (Activity.beginning op).hand :=
      hand_of_task? ((task?_begin s op id).trans (if_pos hid))
    rw [hbefore, hafter]
    cases op with
    | readSession x bean attributeName | endSession x =>
      obtain ⟨id', hx⟩ := hk
      exact .name (hp.named (.inr (.inr (hand_eq_opened_iff.2 hx))))
    | _ => exact .same _
  · have hsame : (s.begin op).hand id = s.hand id := by
      rw [hand, hand, task?_begin, if_neg hid]
    rw [hsame]
    exact .same _

/-- Nothing but a step of a task changes the places of sessions. -/
theorem Placed.rest (hp : Placed O E s) (hst : Steady s e) (he : s.after? e = some s')
    (hne : ∀ id, e ≠ .advance id) : Placed O E s' := by
  have hd : Disciplined s' := hp.disciplined.change (change_of_after? he)
  have hr := retains_of_after? hst he hne
  cases e with
  | advance id => exact absurd rfl (hne id)
  | begin op =>
    cases he
    exact hp.idle hd hr (fun _ _ => Iff.rfl) (hp.idles_begin hst.1 _)
  | abandon id =>
    cases he
    refine hp.idle hd hr (fun h x => ?_) (idles_abandon O _ hst.2)
    rcases abandon_cases s id with ⟨-, hs⟩ | ⟨t, -, hs⟩
    · rw [hs]
    · rw [hs, Task.abandon_eq]
      cases t.activity.access? with
      | none => exact Iff.rfl
      | some a => exact Eq.congr_left (Gateway.link_modifyLock s.gateway a.holder h (·.leave id))
  | acquire url =>
    cases he
    exact hp.idle hd hr (fun h x => by rw [(s.gateway.evolves_acquire url).link])
      fun _ => .same _
  | addHolder url =>
    cases he
    exact hp.idle hd hr (fun h x => by rw [(s.gateway.evolves_addHolder url).link])
      fun _ => .same _
  | alter | withdraw =>
    cases he
    exact hp.idle hd hr (fun _ _ => Iff.rfl) fun _ => .same _

/-- **What an event does to places**: what a task has opened has been opened, and what a task has
been about to close has been closed. -/
theorem Placed.after? (hp : Placed O E s) (hst : Steady s e) (he : s.after? e = some s') :
    Placed (O ∪ {x | ∃ id, s'.hand id = .opened x})
      (E ∪ {x | ∃ id, e = .advance id ∧ s.hand id = .ending x}) s' := by
  cases e with
  | advance id =>
    have hd : Disciplined s' := hp.disciplined.change (change_of_after? he)
    obtain ⟨hh, ho⟩ := handover_of_advance? hp.disciplined he
    have hp' := hp.advance hd hh ho
    have hO : O ∪ {x | ∃ id, s'.hand id = .opened x} = O ∪ {x | s'.hand id = .opened x} := by
      refine subset_antisymm (Set.union_subset Set.subset_union_left ?_)
        (Set.union_subset_union_right O fun x hx => ⟨id, hx⟩)
      rintro x ⟨id', hx⟩
      exact hp'.named (.inr (.inr hx))
    have hE : {x | ∃ id', (.advance id : Event Registry Nat) = .advance id' ∧
        s.hand id' = .ending x} = {x | s.hand id = .ending x} := by
      ext x
      simp
    rw [hO, hE]
    exact hp'
  | _ =>
    have hp' := hp.rest hst he fun _ => nofun
    have hO : O ∪ {x | ∃ id, s'.hand id = .opened x} = O := by
      refine Set.union_eq_self_of_subset_right ?_
      rintro x ⟨id', hx⟩
      exact hp'.named (.inr (.inr hx))
    rw [hO]
    simpa using hp'

/-! ### Runs -/

/-- The sessions that have been opened for tasks. -/
def Opened (s : System Registry Registry.Found Nat) (es : List (Event Registry Nat)) : Set Nat :=
  {x | ∃ u id, Visits s es u ∧ u.result? id = some (.opened x)}

/-- The sessions that have been closed by tasks to which they had been named. -/
def Ended (s : System Registry Registry.Found Nat) (es : List (Event Registry Nat)) : Set Nat :=
  {x | ∃ u id u' t, Occurs s es u (.advance id) u' ∧ u.task? id = some t ∧
    t.activity = .ending x}

theorem opened_snoc (hr : Run s es s') (he : s'.after? e = some u) :
    Opened s (es ++ [e]) = Opened s es ∪ {x | ∃ id, u.hand id = .opened x} := by
  ext x
  simp only [Opened, Set.mem_union, Set.mem_ofPred_eq, visits_snoc hr he, hand_eq_opened_iff]
  constructor
  · rintro ⟨v, id, hv | rfl, hx⟩
    · exact .inl ⟨v, id, hv, hx⟩
    · exact .inr ⟨id, hx⟩
  · rintro (⟨v, id, hv, hx⟩ | ⟨id, hx⟩)
    · exact ⟨v, id, .inl hv, hx⟩
    · exact ⟨u, id, .inr rfl, hx⟩

theorem ended_snoc (hr : Run s es s') (he : s'.after? e = some u) :
    Ended s (es ++ [e]) =
      Ended s es ∪ {x | ∃ id, e = .advance id ∧ s'.hand id = .ending x} := by
  ext x
  simp only [Ended, Set.mem_union, Set.mem_ofPred_eq, occurs_snoc hr he, hand_eq_ending_iff]
  constructor
  · rintro ⟨v, id, v', t, hv | ⟨rfl, rfl, rfl⟩, ht, hx⟩
    · exact .inl ⟨v, id, v', t, hv, ht, hx⟩
    · exact .inr ⟨id, rfl, t, ht, hx⟩
  · rintro (⟨v, id, v', t, hv, ht, hx⟩ | ⟨id, rfl, t, ht, hx⟩)
    · exact ⟨v, id, v', t, .inl hv, ht, hx⟩
    · exact ⟨s', id, u, t, .inr ⟨rfl, rfl, rfl⟩, ht, hx⟩

/-- A gateway without holders, over no endpoints in memory. -/
theorem placed_start (workers : Permits) : Placed ∅ ∅ (start {} workers) where
  disciplined := disciplined_start _ _
  tallied := Registry.tallied_empty
  sorted := by
    refine ⟨nofun, fun {x p q} hp => ?_, fun {x p} hp => ?_⟩ <;>
    · cases p with
      | held h => cases hp
      | closing id => cases hp
      | direct => exact absurd hp.1 (Set.notMem_empty x)
      | gone =>
        obtain ⟨i, url, hx⟩ := hp
        cases hx
  found h := by cases h
  named h := by rcases h with h | h | h <;> cases h
  ended h := absurd h (Set.notMem_empty _)

/-- **Every session is accounted for**, after every run in which nothing is dropped midway. -/
theorem placed_of_run {workers : Permits} (hr : RunWhere Steady (start {} workers) es s) :
    Placed (Opened (start {} workers) es) (Ended (start {} workers) es) s := by
  generalize hs : (start {} workers : System Registry Registry.Found Nat) = s₀ at hr
  induction hr with
  | nil =>
    subst hs
    have hO : Opened (start {} workers) [] = ∅ := by
      ext x
      simp only [Opened, Set.mem_ofPred_eq, Set.mem_empty_iff_false, iff_false]
      rintro ⟨u, id, ⟨es₁, es₂, hes, hu⟩, hx⟩
      obtain ⟨rfl, -⟩ := List.append_eq_nil_iff.1 hes.symm
      obtain rfl := hu.unique (.nil _)
      cases hx
    have hE : Ended (start {} workers) [] = ∅ := by
      ext x
      simp only [Ended, Set.mem_ofPred_eq, Set.mem_empty_iff_false, iff_false]
      rintro ⟨u, id, u', t, ⟨es₁, es₂, hes, -⟩, -⟩
      simp at hes
    rw [hO, hE]
    exact placed_start workers
  | snoc hr hst he ih =>
    subst hs
    rw [opened_snoc hr.run he, ended_snoc hr.run he]
    exact ih.after? hst he

/-! ### Counting -/

/-- The holders that are connected through a session with an endpoint. -/
def connectedTo (s : System Registry Registry.Found Nat) (i : Nat) : Set HolderId :=
  {h | ∃ x ∈ s.gateway.remote.sessionsAt i, s.gateway.link h = .connected x}

/-- The sessions with an endpoint whose holder has been closed by a task that has not closed the
session yet. -/
def closingTo (s : System Registry Registry.Found Nat) (i : Nat) : Set Nat :=
  {x ∈ s.gateway.remote.sessionsAt i | ∃ id a, s.access? id = some a ∧ a.stage = .ending x}

/-- The sessions that holders of an endpoint are connected through. -/
def heldAt (s : System Registry Registry.Found Nat) (i : Nat) : Set Nat :=
  {x ∈ s.gateway.remote.sessionsAt i | ∃ h, s.gateway.link h = .connected x}

/-- Holders have sessions of their own. -/
theorem Placed.ncard_connectedTo (hp : Placed O E s) (i : Nat) :
    (connectedTo s i).ncard = (heldAt s i).ncard := by
  refine Set.ncard_congr (fun h hh => hh.choose) (fun h hh => ?_) (fun h h' hh hh' heq => ?_)
    fun x hx => ?_
  · exact ⟨hh.choose_spec.1, h, hh.choose_spec.2⟩
  · have hx : At O E s hh.choose (.held h) := hh.choose_spec.2
    have hx' : At O E s hh.choose (.held h') := by
      rw [heq]
      exact hh'.choose_spec.2
    exact Place.held.inj (hp.sorted.unique hx hx')
  · obtain ⟨hi, h, hk⟩ := hx
    have hh : h ∈ connectedTo s i := ⟨x, hi, hk⟩
    refine ⟨h, hh, ?_⟩
    exact Link.connected.inj (hh.choose_spec.2.symm.trans hk)

theorem Placed.isOpen_iff (hp : Placed O E s) :
    s.gateway.remote.IsOpen x ↔ ∃ p, p ≠ .gone ∧ At O E s x p := by
  constructor
  · intro hopen
    obtain ⟨p, hx⟩ := hp.sorted.exists_place hopen.lt
    refine ⟨p, ?_, hx⟩
    rintro rfl
    exact hopen.not_isClosed hx
  · rintro ⟨p, hne, hx⟩
    rcases Registry.isOpen_or_isClosed (hp.sorted.lt hx) with hopen | hclosed
    · exact hopen
    · exact absurd (hp.sorted.unique hx (q := .gone) hclosed) hne

/-- The open sessions with an endpoint, by their places. -/
theorem Placed.openAt_eq (hp : Placed O E s) (i : Nat) :
    s.gateway.remote.openAt i =
      heldAt s i ∪ closingTo s i ∪ (O \ E) ∩ s.gateway.remote.sessionsAt i := by
  ext x
  rw [Registry.mem_openAt_iff, hp.isOpen_iff]
  constructor
  · rintro ⟨⟨p, hne, hx⟩, hi⟩
    cases p with
    | held h => exact .inl (.inl ⟨hi, h, hx⟩)
    | closing id => exact .inl (.inr ⟨hi, id, hand_eq_taken_iff.1 hx⟩)
    | direct => exact .inr ⟨hx, hi⟩
    | gone => exact absurd rfl hne
  · rintro ((⟨hi, h, hx⟩ | ⟨hi, id, hx⟩) | ⟨hx, hi⟩)
    · exact ⟨⟨.held h, nofun, hx⟩, hi⟩
    · exact ⟨⟨.closing id, nofun, hand_eq_taken_iff.2 hx⟩, hi⟩
    · exact ⟨⟨.direct, nofun, hx⟩, hi⟩

/-- The counter of an endpoint is the number of its sessions at the three places of open ones. -/
theorem Placed.opens_eq (hp : Placed O E s) (i : Nat) :
    s.gateway.remote.opens i = ((connectedTo s i).ncard + (closingTo s i).ncard +
      ((O \ E) ∩ s.gateway.remote.sessionsAt i).ncard : Nat) := by
  have hfinite {X : Set Nat} (hX : X ⊆ s.gateway.remote.sessionsAt i) : X.Finite :=
    (s.gateway.remote.finite_sessionsAt i).subset hX
  have hheld : (heldAt s i).Finite := hfinite (Set.sep_subset _ _)
  have hclosing : (closingTo s i).Finite := hfinite (Set.sep_subset _ _)
  have hdirect : ((O \ E) ∩ s.gateway.remote.sessionsAt i).Finite :=
    hfinite Set.inter_subset_right
  have hdisjoint : Disjoint (heldAt s i) (closingTo s i) := by
    refine Set.disjoint_left.2 ?_
    rintro x ⟨-, h, hx⟩ ⟨-, id, hx'⟩
    cases hp.sorted.unique (p := .held h) (q := .closing id) hx (hand_eq_taken_iff.2 hx')
  have hdisjoint' : Disjoint (heldAt s i ∪ closingTo s i)
      ((O \ E) ∩ s.gateway.remote.sessionsAt i) := by
    refine Set.disjoint_left.2 ?_
    rintro x (⟨-, h, hx⟩ | ⟨-, id, hx⟩) ⟨hx', -⟩
    · cases hp.sorted.unique (p := .held h) (q := .direct) hx hx'
    · cases hp.sorted.unique (p := .closing id) (q := .direct) (hand_eq_taken_iff.2 hx) hx'
  rw [hp.tallied.counted, hp.openAt_eq, hp.ncard_connectedTo,
    Set.ncard_union_eq hdisjoint' (hheld.union hclosing) hdirect,
    Set.ncard_union_eq hdisjoint hheld hclosing]

/-- How an event changes the counter of an endpoint. -/
inductive Recount (s : System Registry Registry.Found Nat) (e : Event Registry Nat)
    (s' : System Registry Registry.Found Nat) (i : Nat) : Prop where
  /-- Not at all. -/
  | same (h : s'.gateway.remote.opens i = s.gateway.remote.opens i)
  /-- A task opens a session with the endpoint. -/
  | up {id : TaskId} {found : Registry.Found} {x : Nat} (he : e = .advance id)
      (hf : s.hand id = .found found) (hi : found.1 = i)
      (hx : (Remote.establish found s.gateway.remote).1 = .ok x)
      (h : s'.gateway.remote.opens i = s.gateway.remote.opens i + 1)
  /-- A task closes an open session with the endpoint. -/
  | down {id : TaskId} {x : Nat} (he : e = .advance id)
      (hb : s.hand id = .taken x ∨ s.hand id = .ending x)
      (hx : x ∈ s.gateway.remote.openAt i) (hx' : s'.gateway.remote.IsClosed x)
      (h : s'.gateway.remote.opens i = s.gateway.remote.opens i - 1)

theorem Placed.recount (hp : Placed O E s) (hst : Steady s e) (he : s.after? e = some s')
    (i : Nat) : Recount s e s' i := by
  classical
  cases e with
  | advance id =>
    obtain ⟨hh, -⟩ := handover_of_advance? hp.disciplined he
    generalize hb : s.hand id = before at hh
    generalize s'.hand id = after at hh
    cases hh with
    | keep hr => exact .same (hr.opens i)
    | take h hr => exact .same (by rw [hr])
    | @connect h found x he hr | @obtain found x he hr =>
      have hopens := Registry.opens_establish (hp.found hb) he i
      rw [← hr] at hopens
      by_cases hi : i = found.1
      · rw [if_pos hi] at hopens
        exact .up rfl hb hi.symm he hopens
      · rw [if_neg hi, Int.add_zero] at hopens
        exact .same hopens
    | @close _ x hb' hr =>
      have hopens := hp.tallied.opens_closeSession x i
      rw [← hr] at hopens
      by_cases hx : x ∈ s.gateway.remote.openAt i
      · rw [if_pos hx] at hopens
        refine .down rfl (hb'.imp hb.trans hb.trans) hx ?_ hopens
        rw [hr]
        exact Registry.isClosed_closeSession.2 (.inr ⟨rfl, (Registry.mem_openAt_iff.1 hx).1.lt⟩)
      · rw [if_neg hx, Int.sub_zero] at hopens
        exact .same hopens
  | _ => exact .same ((retains_of_after? hst he fun _ => nofun).opens i)

/-- A session that has been closed stays closed. -/
theorem Placed.isClosed (hp : Placed O E s) (hst : Steady s e) (he : s.after? e = some s')
    (hx : s.gateway.remote.IsClosed x) : s'.gateway.remote.IsClosed x := by
  cases e with
  | advance id =>
    obtain ⟨hh, -⟩ := handover_of_advance? hp.disciplined he
    generalize s.hand id = before at hh
    generalize s'.hand id = after at hh
    cases hh with
    | keep hr => exact (Registry.isClosed_congr hr.sessions).2 hx
    | take h hr => rwa [hr]
    | connect h he hr | obtain he hr =>
      obtain ⟨-, hs⟩ := Registry.establish_eq_ok he
      rw [hr]
      exact (Registry.isClosed_append (by rw [hs])).2 hx
    | close hb hr =>
      rw [hr]
      exact Registry.isClosed_closeSession.2 (.inl hx)
  | _ =>
    have hr := retains_of_after? hst he fun _ => nofun
    exact (Registry.isClosed_congr hr.sessions).2 hx

/-- **Open sessions are accounted for**, in every run over endpoints in memory in which nothing is
dropped midway. What an endpoint counts, whether it is still registered or not, is the number of
holders that are connected through its sessions, of sessions that tasks which have closed their
holders are about to close, and of sessions that have been opened for tasks and not been closed by
any. An event changes a counter by one if it opens a session or closes an open one, and leaves it as
it is otherwise; so does an attempt to open a session that fails, and closing a session that has
been closed, which stays closed. -/
theorem open_sessions_accounted {workers : Permits}
    (hr : RunWhere Steady (start {} workers) es s) :
    (∀ i (endpoint : Endpoint), s.gateway.remote.endpoints[i]? = some endpoint →
      endpoint.openSessions = ((connectedTo s i).ncard + (closingTo s i).ncard +
        ((Opened (start {} workers) es \ Ended (start {} workers) es) ∩
          s.gateway.remote.sessionsAt i).ncard : Nat)) ∧
    (∀ u e u' i, Occurs (start {} workers) es u e u' → Recount u e u' i) ∧
    (∀ u id u' found error i, Occurs (start {} workers) es u (.advance id) u' →
      u.hand id = .found found →
      (Remote.establish found u.gateway.remote).1 = .error error →
        u'.gateway.remote.opens i = u.gateway.remote.opens i) ∧
    ∀ u e u' x, Occurs (start {} workers) es u e u' → u.gateway.remote.IsClosed x →
      u'.gateway.remote.IsClosed x ∧
        ∀ id i, e = .advance id → u.hand id = .taken x ∨ u.hand id = .ending x →
          u'.gateway.remote.opens i = u.gateway.remote.opens i := by
  have hrecount : ∀ u e u' i, Occurs (start {} workers) es u e u' → Recount u e u' i := by
    intro u e u' i hocc
    obtain ⟨es₁, es₂, -, hu, hst, -⟩ := hr.split hocc
    exact (placed_of_run hu).recount hst hocc.after?_eq i
  refine ⟨fun i endpoint hi => ?_, hrecount, fun u id u' found error i hocc hf herr => ?_,
    fun u e u' x hocc hx => ⟨?_, fun id i he hb => ?_⟩⟩
  · have hopens := (placed_of_run hr).opens_eq i
    rwa [Registry.opens, hi] at hopens
  · cases hrecount u _ u' i hocc with
    | same h => exact h
    | up he hf' _ hx =>
      cases he
      obtain rfl := Hand.found.inj (hf.symm.trans hf')
      rw [herr] at hx
      cases hx
    | down he hb =>
      cases he
      rcases hb with hb | hb <;> cases hf.symm.trans hb
  · obtain ⟨es₁, es₂, -, hu, hst, -⟩ := hr.split hocc
    exact (placed_of_run hu).isClosed hst hocc.after?_eq hx
  · subst he
    cases hrecount u _ u' i hocc with
    | same h => exact h
    | up he hf =>
      cases he
      rcases hb with hb | hb <;> cases hb.symm.trans hf
    | @down id' y he hb' hy =>
      -- The task has one session in its hands, which is closed already.
      cases he
      obtain rfl : x = y := by
        rcases hb with hb | hb <;> rcases hb' with hb' | hb' <;> cases hb.symm.trans hb' <;> rfl
      exact absurd hx (Registry.mem_openAt_iff.1 hy).1.not_isClosed

/-- One session has been taken from a holder that is being closed, another holder is connected, and
a third session has been opened for its own sake. -/
def threeSessions : List (Event Registry Nat) :=
  [.alter (·.register "u"), .begin (.answer "GET u %s b a"), .begin (.evict "u"),
    .begin (.answer "GET u %s b a"), .begin (.openSession "u")] ++
  List.replicate 13 (.advance 0) ++ List.replicate 3 (.advance 1) ++
  List.replicate 6 (.advance 2) ++ List.replicate 2 (.advance 3)

theorem open_sessions_accounted_threeSessions :
    (connectedTo (inMemory.behind threeSessions) 0).ncard +
      (closingTo (inMemory.behind threeSessions) 0).ncard +
      ((Opened inMemory threeSessions \ Ended inMemory threeSessions) ∩
        (inMemory.behind threeSessions).gateway.remote.sessionsAt 0).ncard = 3 := by
  have hr : Run inMemory threeSessions (inMemory.behind threeSessions) :=
    run_behind (by decide +kernel)
  have hP : RunWhere Steady inMemory threeSessions (inMemory.behind threeSessions) := by
    refine hr.runWhere fun u e he => ?_
    simp only [threeSessions, List.mem_append, List.mem_cons, List.mem_replicate,
      List.not_mem_nil, or_false] at he
    rcases he with ((((rfl | rfl | rfl | rfl | rfl) | ⟨-, rfl⟩) | ⟨-, rfl⟩) | ⟨-, rfl⟩) | ⟨-, rfl⟩
    · exact ⟨trivial, (Registry.Alters.register "u").retains⟩
    all_goals exact ⟨trivial, trivial⟩
  have hcount : ((inMemory.behind threeSessions).gateway.remote.endpoints[0]?).map
      Endpoint.openSessions = some 3 := by decide +kernel
  obtain ⟨endpoint, hi, hthree⟩ := Option.map_eq_some_iff.1 hcount
  have hsum := (open_sessions_accounted hP).1 0 endpoint hi
  rw [hthree] at hsum
  exact_mod_cast hsum.symm

end System

end AttributeGateway
