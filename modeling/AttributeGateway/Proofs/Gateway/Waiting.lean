import AttributeGateway.Proofs.Gateway.Caching
import AttributeGateway.Proofs.Gateway.Discipline
import AttributeGateway.Proofs.Gateway.Permits

/-!
# What tasks wait for

A task waits for a lock or for a permit, and whoever has what it waits for is a task that has not
come to its result. Both rest on the queues: a task that has asked for a lock or a permit stands in
its queue until it has it, and the queue is served whenever something is given back, so that nobody
waits for what nobody has.

* `System.Attended` — locks: who has asked for one has an entry in it, and the first who waits
  cannot have it yet.
* `Permits.serve`, `Permits.Sound` — permits are neither lost nor made, and none is free while
  somebody waits.
* `System.Staffed` — permits: who has or wants one is a task on its way to a result.
-/

namespace AttributeGateway

variable {ρ τ σ : Type}

/-! ### Locks -/

namespace Access

variable [Remote ρ τ σ] {id : TaskId} {a a' : Access τ σ} {g g' : Gateway ρ σ} {n : Next τ σ}

/-- A step leaves the lock of the holder as it is, or serves its queue. -/
theorem Step.lock_cases (h : a.Step id g g' n) :
    g'.lock a.holder = g.lock a.holder ∨
      ∃ held queue, g'.lock a.holder = Lock.serve held queue := by
  have hmodify {g₁ : Gateway ρ σ} {f : Lock → Lock}
      (hg : g₁.lock a.holder = g.lock a.holder)
      (hf : ∀ l, ∃ held queue, f l = Lock.serve held queue) :
      (g₁.modifyLock a.holder f).lock a.holder = g.lock a.holder ∨
        ∃ held queue, (g₁.modifyLock a.holder f).lock a.holder = Lock.serve held queue := by
    rcases Gateway.lock_modifyLock_cases g₁ a.holder f with hl | hl <;> rw [hl]
    · exact .inr (hf _)
    · exact .inl hg
  cases h with
  | askToShare | askToExclude | giveWay | refuse | share | miss | fail | lose | join | read
  | finish => exact hmodify rfl fun l => ⟨_, _, rfl⟩
  | shut => exact hmodify (Gateway.lock_setLink ..) fun l => ⟨_, _, rfl⟩
  | establish => exact hmodify (Gateway.lock_setLink ..) fun l => ⟨_, _, rfl⟩
  | drop => exact .inl (Gateway.lock_setLink ..)
  | find | attempt | use => exact .inl rfl

/-- A step leaves the others their entries in the lock of the holder. -/
theorem Step.mem_entries (h : a.Step id g g' n) {id' : TaskId} {m : LockMode} (hne : id' ≠ id)
    (he : (id', m) ∈ (g.lock a.holder).entries) : (id', m) ∈ (g'.lock a.holder).entries := by
  have hmodify {g₁ : Gateway ρ σ} {f : Lock → Lock} (hg : g₁.lock a.holder = g.lock a.holder)
      (hf : ∀ l : Lock, (id', m) ∈ l.entries → (id', m) ∈ (f l).entries) :
      (id', m) ∈ ((g₁.modifyLock a.holder f).lock a.holder).entries := by
    rcases Gateway.lock_modifyLock_cases g₁ a.holder f with hl | hl <;> rw [hl, hg]
    · exact hf _ he
    · exact he
  have hleave : ∀ l : Lock, (id', m) ∈ l.entries → (id', m) ∈ (l.leave id).entries :=
    fun l hl => Lock.mem_entries_leave.2 ⟨hl, hne⟩
  have hdowngrade : ∀ l : Lock, (id', m) ∈ l.entries → (id', m) ∈ (l.downgrade id).entries :=
    fun l hl => Lock.mem_entries_downgrade_of_ne hne hl
  cases h with
  | askToShare | askToExclude => exact hmodify rfl fun l hl => Lock.mem_entries_request.2 (.inl hl)
  | giveWay | refuse | miss | fail | lose | join | read | finish => exact hmodify rfl hleave
  | shut => exact hmodify (Gateway.lock_setLink ..) hleave
  | share => exact hmodify rfl hdowngrade
  | establish => exact hmodify (Gateway.lock_setLink ..) hdowngrade
  | drop =>
    rw [Gateway.lock_setLink]
    exact he
  | find | attempt | use => exact he

/-- An access that goes on without the lock has asked for it, or is about to. -/
theorem Step.asks (h : a.Step id g g' (.inl a')) (hh : ¬ a'.stage.Holds) {m : LockMode}
    (hm : a'.stage.mode? = some m) : g' = g.modifyLock a.holder (·.request id m) := by
  generalize hn : (Sum.inl a' : Next τ σ) = n at h
  cases h with
  | askToShare | askToExclude =>
    cases hn
    cases hm
    rfl
  | giveWay =>
    cases hn
    cases hm
  | find | drop | share | attempt | establish | use =>
    cases hn
    exact absurd trivial hh
  | refuse | shut | miss | fail | lose | join | read | finish => cases hn

end Access

namespace System

variable [Remote ρ τ σ] {s s' : System ρ τ σ} {e : Event ρ σ}

/-- Who has asked for a lock stands in its queue until it has the lock, and the queue has been
served. -/
structure Attended (s : System ρ τ σ) : Prop where
  /-- Nobody who waits could be served. -/
  full : ∀ h, (s.gateway.lock h).Full
  /-- Who has asked for a lock has an entry in it. -/
  asked : ∀ {id a m}, s.access? id = some a → a.stage.mode? = some m →
    (id, m) ∈ (s.gateway.lock a.holder).entries

omit [Remote ρ τ σ] in
theorem attended_start (remote : ρ) (workers : Permits) :
    Attended (start remote workers : System ρ τ σ) where
  full _ := Lock.full_empty
  asked ha := by cases ha

omit [Remote ρ τ σ] in
/-- Holders that tasks access have been made. -/
theorem Current.made (hs : Current s) {id : TaskId} {a : Access τ σ} (ha : s.access? id = some a) :
    s.gateway.Made a.holder := by
  obtain ⟨t, ht, hact⟩ := Option.bind_eq_some_iff.1 ha
  exact ((hs.sound id t ht).access hact).1

omit [Remote ρ τ σ] in
/-- What one task does to one lock leaves the locks attended if the queue has been served, the
others keep their entries and the task has one in the lock that it asks for. -/
theorem Attended.update (hs : Attended s) {id : TaskId} {h : HolderId}
    (hfull : (s'.gateway.lock h).Full)
    (hother : ∀ h', h' ≠ h → s'.gateway.lock h' = s.gateway.lock h')
    (hkept : ∀ id' m, id' ≠ id → (id', m) ∈ (s.gateway.lock h).entries →
      (id', m) ∈ (s'.gateway.lock h).entries)
    (ho : ∀ id', id' ≠ id → s'.access? id' = s.access? id')
    (hself : ∀ a m, s'.access? id = some a → a.stage.mode? = some m →
      (id, m) ∈ (s'.gateway.lock a.holder).entries) : Attended s' := by
  constructor
  · intro h'
    by_cases hh : h' = h
    · rw [hh]
      exact hfull
    · rw [hother h' hh]
      exact hs.full h'
  · intro id' a m ha hm
    by_cases hid : id' = id
    · subst hid
      exact hself a m ha hm
    · rw [ho id' hid] at ha
      have he := hs.asked ha hm
      by_cases hh : a.holder = h
      · rw [hh] at he ⊢
        exact hkept id' m hid he
      · rw [hother _ hh]
        exact he

/-- **Every event leaves the locks attended.** -/
theorem Attended.change (hs : Attended s) (hcurrent : Current s) (hd : Disciplined s')
    (hc : Change s e s') : Attended s' := by
  cases hc with
  | @move id a g n _ ha hstep hg hn ho =>
    have hlock : ∀ h, s'.gateway.lock h = g.lock h := by
      intro h
      rw [hg]
      rfl
    refine hs.update (h := a.holder) ?_ (fun h hh => (hlock h).trans (hstep.touches.lock h hh))
      (fun id' m hid he => ?_) ho fun b m hb hm => ?_
    · rw [hlock]
      rcases hstep.lock_cases with hl | ⟨held, queue, hl⟩ <;> rw [hl]
      · exact hs.full _
      · exact Lock.full_serve held queue
    · rw [hlock]
      exact hstep.mem_entries hid he
    · by_cases hholds : b.stage.Holds
      · exact Lock.mem_entries_of_held (hd.holds hb hholds hm)
      · -- The task has just asked for the lock.
        rw [hn] at hb
        obtain rfl := Sum.getLeft?_eq_some_iff.1 hb
        have hmade := hcurrent.made ha
        rw [hlock, hstep.asks hholds hm, hstep.same.1, Gateway.lock_modifyLock hmade]
        exact Lock.mem_entries_request.2 (.inr rfl)
  | @drop id a _ ha hg hn ho =>
    have hself : s'.gateway.lock a.holder = (s.gateway.lock a.holder).leave id := by
      rw [hg]
      exact Gateway.lock_modifyLock_leave s.gateway a.holder id
    refine hs.update (h := a.holder) ?_ (fun h hh => ?_) (fun id' m hid he => ?_) ho
      fun b m hb hm => ?_
    · rw [hself]
      exact Lock.full_serve _ _
    · rw [hg]
      exact (Gateway.touches_modifyLock s.gateway a.holder (·.leave id)).lock h hh
    · rw [hself]
      exact Lock.mem_entries_leave.2 ⟨he, hid⟩
    · rw [hn] at hb
      cases hb
  | quiet remote hg ho =>
    constructor
    · intro h
      rw [hg.lock]
      exact hs.full h
    · intro id b m hb hm
      rw [hg.lock]
      rcases ho id with hid | ⟨-, hid⟩
      · exact hs.asked (hid.symm.trans hb) hm
      · rw [hid b hb] at hm
        cases hm

end System

/-! ### Permits -/

namespace Permits

variable {p : Permits} {id : TaskId}

/-- Those who have a permit, and behind them those who wait for one. -/
def entries (p : Permits) : List TaskId := p.held ++ p.queue

/-- Of a number of permits each is free or belongs to somebody, and none is free while somebody
waits. -/
structure Sound (total : Nat) (p : Permits) : Prop where
  /-- No permit is lost or made. -/
  total : p.free + p.held.length = total
  /-- None is free while somebody waits. -/
  busy : p.queue ≠ [] → p.free = 0

/-- Serving the queue moves the border between those who have a permit and those who wait. -/
@[simp] theorem entries_serve (p : Permits) : p.serve.entries = p.entries := by
  simp only [entries, serve, List.append_assoc, List.take_append_drop]

/-- Serving the queue hands out permits until there is none or nobody waits. -/
theorem sound_serve (p : Permits) : p.serve.Sound (p.free + p.held.length) := by
  constructor
  · simp only [serve, List.length_append, List.length_take]
    omega
  · intro hq
    simp only [serve, ne_eq, List.drop_eq_nil_iff, Nat.not_le] at hq ⊢
    omega

theorem entries_request (p : Permits) (id : TaskId) :
    (p.request id).entries = p.entries ++ [id] := by
  rw [request, entries_serve, entries, entries, List.append_assoc]

theorem Sound.request {total : Nat} (h : p.Sound total) (id : TaskId) :
    (p.request id).Sound total := by
  rw [← h.total]
  exact sound_serve { p with queue := p.queue ++ [id] }

theorem entries_leave (p : Permits) (id : TaskId) :
    (p.leave id).entries = p.entries.filter (· ≠ id) := by
  rw [leave, entries_serve, entries, entries, List.filter_append]

theorem mem_entries_leave {id' : TaskId} :
    id' ∈ (p.leave id).entries ↔ id' ∈ p.entries ∧ id' ≠ id := by
  rw [entries_leave, List.mem_filter, decide_eq_true_eq]

/-- Each permit of a task that leaves becomes free. -/
theorem Sound.leave {total : Nat} (h : p.Sound total) (id : TaskId) : (p.leave id).Sound total := by
  have hlength : p.held.length = p.held.count id + (p.held.filter (· ≠ id)).length := by
    rw [← List.countP_eq_length_filter, List.count,
      List.length_eq_countP_add_countP (· == id)]
    simp
  have hserve := sound_serve
    { p with
      free := p.free + p.held.count id
      held := p.held.filter (· ≠ id)
      queue := p.queue.filter (· ≠ id) }
  rw [← h.total, hlength, ← Nat.add_assoc]
  exact hserve

/-- If somebody waits, somebody has a permit. -/
theorem Sound.exists_held {total : Nat} (h : p.Sound total) (hpos : 1 ≤ total)
    (hq : id ∈ p.queue) : ∃ id', id' ∈ p.held := by
  have hfree : p.free = 0 := h.busy (List.ne_nil_of_mem hq)
  have htotal := h.total
  refine List.exists_mem_of_length_pos ?_
  omega

end Permits

namespace Activity

variable [Remote ρ τ σ] {g g' : Gateway ρ σ} {id : TaskId} {act : Activity τ σ}

omit [Remote ρ τ σ] in
theorem Turn.not_queueing {h : HolderId} {r : Reading} {inside : Bool} {failed : Fault → Prop}
    {next : Gateway ρ σ × Activity τ σ} (ht : Turn h r inside failed g next) (line : String) :
    next.2 ≠ .queueing line := by
  cases ht with
  | done | fetch | giveUp => exact nofun

omit [Remote ρ τ σ] in
theorem Resumed.not_queueing {p : Purpose} {h : HolderId} {o : Outcome}
    {next : Gateway ρ σ × Activity τ σ} (hr : Resumed h g p o next) (line : String) :
    next.2 ≠ .queueing line := by
  cases hr with
  | reconnect | refresh | refuse | gaveUp | dropped => exact nofun
  | goOn _ ht | settle _ ht => exact ht.not_queueing line

/-- An activity that waits for a permit had a line to submit, and has just asked for the permit. -/
theorem submit_of_queueing {line : String} (h : act.step id g = some (g', .queueing line)) :
    act = .beginning (.submit line) ∧ g'.workers = g.workers.request id := by
  cases ha : act.access? with
  | some a =>
    obtain ⟨n, -, hact⟩ := step_access ha h
    cases act with
    | requesting | accessing | clearing => cases n <;> cases hact
    | _ => cases ha
  | none =>
    have hquiet := quiet_of_step ha h
    generalize hnext : (g', Activity.queueing line) = next at hquiet
    have hwaits : next.2 = .queueing line := by rw [← hnext]
    cases hquiet with
    | submit =>
      cases hnext
      exact ⟨rfl, rfl⟩
    | resume hr => exact absurd hwaits (hr.not_queueing line)
    | search hact =>
      obtain ⟨found, rfl⟩ | ⟨error, rfl⟩ := hact
      · cases hwaits
      · cases hwaits
    | _ => cases hwaits

end Activity

namespace Task

variable {g g' : Gateway ρ σ} {id : TaskId} {t t' : Task τ σ}

/-- A task on its way to a result that has a permit or has asked for one. -/
structure Engaged (t : Task τ σ) : Prop where
  /-- It has not come to its result. -/
  unfinished : t.activity.result? = none
  /-- It has taken up its line with a permit, or waits. -/
  permit : t.employed = true ∨ ∃ line, t.activity = .queueing line

/-- What a task does to permits, and what becomes of it. -/
inductive Uses (id : TaskId) (p : Permits) (o : Option (Task τ σ)) : Permits → Prop where
  /-- It leaves them alone. -/
  | nothing (he : id ∈ p.entries → ∃ t, o = some t ∧ t.Engaged)
      (hq : ∀ t line, o = some t → t.activity ≠ .queueing line) : Uses id p o p
  /-- It asks for one, and waits. -/
  | request {t : Task τ σ} (ho : o = some t) (he : t.Engaged) : Uses id p o (p.request id)
  /-- It gives one back, or stops waiting. -/
  | leave (hq : ∀ t line, o = some t → t.activity ≠ .queueing line) : Uses id p o (p.leave id)

/-- A step of a task leaves the permits alone, asks for one, or gives one back. -/
theorem uses_step [Remote ρ τ σ] (h : t.step id g = some (g', t'))
    (ht : id ∈ g.workers.entries → t.Engaged) : Uses id g.workers (some t') g'.workers := by
  rw [step] at h
  split at h
  · rw [takeUp] at h
    split at h
    · cases h
      refine .leave fun t line ho => ?_
      cases ho
      simp
    · split at h
      · cases h
        refine .nothing (fun _ => ⟨_, rfl, rfl, .inl rfl⟩) fun t line ho => ?_
        cases ho
        simp
      · cases h
  · next hnot =>
    rw [Option.map_eq_some_iff] at h
    obtain ⟨⟨g₁, act⟩, hact, h⟩ := h
    simp only [settle] at h
    by_cases hq : ∃ line, act = .queueing line
    · obtain ⟨line, rfl⟩ := hq
      obtain ⟨-, hw⟩ := Activity.submit_of_queueing hact
      simp only [Activity.result?, Option.isSome_none, Bool.and_false, Bool.false_eq_true,
        if_false, Prod.mk.injEq] at h
      obtain ⟨rfl, rfl⟩ := h
      rw [hw]
      exact .request rfl ⟨rfl, .inr ⟨line, rfl⟩⟩
    · have hw : g₁.workers = g.workers :=
        (Activity.workers_step hact).resolve_right fun hr => hq hr.2
      split at h
      · cases h
        simp only [hw]
        refine .leave fun t line ho => ?_
        cases ho
        exact fun he => hq ⟨line, he⟩
      · next hstays =>
        cases h
        rw [hw]
        refine .nothing (fun hid => ?_) fun t line ho => ?_
        · -- The task does not wait, so it is employed and has not come to its result.
          have hemployed : t.employed = true := by
            refine (ht hid).permit.resolve_right fun hqueueing => ?_
            obtain ⟨line, hline⟩ := hqueueing
            exact hnot line hline
          refine ⟨_, rfl, ?_, .inl hemployed⟩
          simpa [hemployed] using hstays
        · cases ho
          exact fun he => hq ⟨line, he⟩

theorem workers_abandon (id : TaskId) (t : Task τ σ) (g : Gateway ρ σ) :
    (t.abandon id g).workers = g.workers.leave id := by
  obtain ⟨act, employed⟩ := t
  cases act <;> rfl

end Task

namespace System

variable [Remote ρ τ σ] {s s' : System ρ τ σ} {e : Event ρ σ} {total : Nat}

/-- Permits are kept, and who has or wants one is a task on its way to a result. -/
structure Staffed (total : Nat) (s : System ρ τ σ) : Prop where
  /-- No permit is lost or made, and none is free while somebody waits. -/
  sound : s.gateway.workers.Sound total
  /-- Who has or wants a permit is on its way to a result. -/
  engaged : ∀ {id}, id ∈ s.gateway.workers.entries → ∃ t, s.task? id = some t ∧ t.Engaged
  /-- Who waits for a permit stands in the queue, or has the permit by now. -/
  entered : ∀ {id t line}, s.task? id = some t → t.activity = .queueing line →
    id ∈ s.gateway.workers.entries

omit [Remote ρ τ σ] in
theorem staffed_start (remote : ρ) (total : Nat) :
    Staffed total (start remote ⟨total, [], [], false⟩ : System ρ τ σ) where
  sound := ⟨rfl, fun hq => absurd rfl hq⟩
  engaged hid := by cases hid
  entered ht := by cases ht

omit [Remote ρ τ σ] in
/-- What a task does to permits keeps them staffed. -/
theorem Staffed.uses (hs : Staffed total s) (id : TaskId)
    (ho : ∀ id', id' ≠ id → s'.task? id' = s.task? id')
    (hu : Task.Uses id s.gateway.workers (s'.task? id) s'.gateway.workers) :
    Staffed total s' := by
  generalize hself : s'.task? id = o at hu
  generalize hw : s'.gateway.workers = p at hu
  -- Another task is on its way as before.
  have hengaged {id' : TaskId} (hid : id' ≠ id) (he : id' ∈ s.gateway.workers.entries) :
      ∃ t, s'.task? id' = some t ∧ t.Engaged := by
    rw [ho id' hid]
    exact hs.engaged he
  have hentered {id' : TaskId} {t : Task τ σ} {line : String} (hid : id' ≠ id)
      (ht : s'.task? id' = some t) (hq : t.activity = .queueing line) :
      id' ∈ s.gateway.workers.entries := by
    rw [ho id' hid] at ht
    exact hs.entered ht hq
  cases hu with
  | nothing he hq =>
    refine ⟨hw ▸ hs.sound, fun {id'} hid' => ?_, fun {id' t line} ht hline => ?_⟩
    · rw [hw] at hid'
      by_cases hid : id' = id
      · rw [hid] at hid' ⊢
        rw [hself]
        exact he hid'
      · exact hengaged hid hid'
    · rw [hw]
      by_cases hid : id' = id
      · rw [hid, hself] at ht
        exact absurd hline (hq t line ht)
      · exact hentered hid ht hline
  | @request t hot he =>
    refine ⟨hw ▸ hs.sound.request id, fun {id'} hid' => ?_, fun {id' t line} ht hline => ?_⟩
    · rw [hw, Permits.entries_request, List.mem_append, List.mem_singleton] at hid'
      by_cases hid : id' = id
      · rw [hid, hself]
        exact ⟨t, hot, he⟩
      · exact hengaged hid (hid'.resolve_right hid)
    · rw [hw, Permits.entries_request, List.mem_append, List.mem_singleton]
      by_cases hid : id' = id
      · exact .inr hid
      · exact .inl (hentered hid ht hline)
  | leave hq =>
    refine ⟨hw ▸ hs.sound.leave id, fun {id'} hid' => ?_, fun {id' t line} ht hline => ?_⟩
    · rw [hw, Permits.mem_entries_leave] at hid'
      exact hengaged hid'.2 hid'.1
    · rw [hw, Permits.mem_entries_leave]
      by_cases hid : id' = id
      · rw [hid, hself] at ht
        exact absurd hline (hq t line ht)
      · exact ⟨hentered hid ht hline, hid⟩

omit [Remote ρ τ σ] in
/-- Permits stay staffed when they are given no longer, and when tasks begin. -/
theorem Staffed.of_entries (hs : Staffed total s) (hsound : s'.gateway.workers.Sound total)
    (hw : s'.gateway.workers.entries = s.gateway.workers.entries)
    (ho : ∀ id, s.task? id = s'.task? id ∨
      s.task? id = none ∧ ∃ op, s'.task? id = some (.ofOperation op)) : Staffed total s' := by
  refine ⟨hsound, fun {id} hid => ?_, fun {id t line} ht hline => ?_⟩
  · rw [hw] at hid
    obtain ⟨t, ht, he⟩ := hs.engaged hid
    rcases ho id with hsame | ⟨hnone, -⟩
    · exact ⟨t, hsame.symm.trans ht, he⟩
    · rw [hnone] at ht
      cases ht
  · rw [hw]
    rcases ho id with hsame | ⟨-, op, hop⟩
    · exact hs.entered (hsame.trans ht) hline
    · rw [hop] at ht
      cases ht
      cases hline

/-- **Every event leaves the permits staffed.** -/
theorem Staffed.after? (hs : Staffed total s) (h : s.after? e = some s') : Staffed total s' := by
  cases e with
  | begin op =>
    cases h
    refine hs.of_entries hs.sound rfl fun id => ?_
    rw [task?_begin]
    split
    · next hid =>
      refine .inr ⟨?_, op, rfl⟩
      rw [hid, task?, List.getElem?_eq_none (Nat.le_refl _)]
      rfl
    · exact .inl rfl
  | advance id =>
    obtain ⟨t, t', ht, hstep, htasks⟩ := advance_cases h
    have htask := task?_of_set ht htasks
    refine hs.uses id (fun id' hne => (htask id').trans (if_neg hne)) ?_
    rw [htask, if_pos rfl]
    refine Task.uses_step hstep fun hid => ?_
    obtain ⟨t₁, ht₁, he⟩ := hs.engaged hid
    rw [ht] at ht₁
    cases ht₁
    exact he
  | abandon id =>
    cases h
    rcases abandon_cases s id with ⟨-, hsame⟩ | ⟨t, ht, hdropped⟩
    · rw [hsame]
      exact hs
    · have htasks : (s.abandon id).tasks = s.tasks.set id none := by rw [hdropped]
      have htask := task?_of_set ht htasks
      have hw : (s.abandon id).gateway.workers = s.gateway.workers.leave id := by
        rw [hdropped]
        exact Task.workers_abandon id t s.gateway
      refine hs.uses id (fun id' hne => (htask id').trans (if_neg hne)) ?_
      rw [htask, if_pos rfl, hw]
      refine .leave fun t line ho => ?_
      cases ho
  | acquire url =>
    cases h
    exact hs.of_entries (by simpa using hs.sound) (by simp) fun _ => .inl rfl
  | addHolder url | alter change =>
    cases h
    exact hs.of_entries hs.sound rfl fun _ => .inl rfl
  | withdraw =>
    cases h
    exact hs.of_entries ⟨hs.sound.total, hs.sound.busy⟩ rfl fun _ => .inl rfl

end System

end AttributeGateway
