import AttributeGateway.Proofs.Gateway.Waiting
import Mathlib.Logic.Relation

/-!
# No deadlock

A task that has a lock or a permit may itself have to wait. Whom it waits for is given by the
queues: a task in the queue of a lock waits for those who have the lock, and a task in the queue of
the permits for those who have one. These waits come to an end. Whoever has a lock waits for no
lock, so it can take its next step or the remote side is at work for it; and whoever has a permit
waits for a lock at most.

* `System.WaitsFor` — whom a task waits for.
* `System.AtRemote`, `System.CanGoOn` — a task for which the remote side is at work, and one that
  can take its next step without it.
* `System.not_hasLock_of_waitsForLock` — nobody waits for a lock while it has one.
* `System.progress_of_access`, `System.progress_of_queueing` — where the waits of a task end.
* `System.no_deadlock` — no run leads to a deadlock.
-/

namespace AttributeGateway

variable {ρ τ σ : Type}

/-! ### Tasks that go on -/

/-- Whether an operation of the remote side is under way at a stage. -/
def Stage.AtRemote : Stage τ σ → Prop
  | .establishing _ | .reading _ | .ending _ => True
  | _ => False

instance (stage : Stage τ σ) : Decidable stage.AtRemote :=
  match stage with
  | .establishing _ | .reading _ | .ending _ => isTrue trivial
  | .beginning | .sharing | .upgrading | .excluding | .guarding => isFalse not_false

/-- Whether the remote side is at work for an activity. -/
def Activity.AtRemote : Activity τ σ → Prop
  | .requesting _ a | .accessing a | .clearing a _ => a.stage.AtRemote
  | .opening _ | .reading _ _ _ | .ending _ => True
  | _ => False

instance (act : Activity τ σ) : Decidable act.AtRemote :=
  match act with
  | .requesting _ a | .accessing a | .clearing a _ => inferInstanceAs (Decidable a.stage.AtRemote)
  | .opening _ | .reading _ _ _ | .ending _ => isTrue trivial
  | .beginning _ | .queueing _ | .returning _ _ _ | .sweeping _ | .finished _ => isFalse not_false

namespace Access

variable [Remote ρ τ σ] {g : Gateway ρ σ} {id : TaskId} {a : Access τ σ}

/-- An access that has the lock that it has asked for can take its next step. -/
theorem isSome_step
    (hl : ∀ m, a.stage.mode? = some m → (id, m) ∈ (g.lock a.holder).held) :
    (a.step id g).isSome := by
  obtain ⟨h, aim, stage⟩ := a
  cases stage with
  | beginning | upgrading | establishing | guarding | reading | ending => rfl
  | sharing | excluding =>
    simp only [step]
    split
    · rfl
    · next hnot => exact absurd (Lock.holds_iff.2 (hl _ rfl)) hnot

end Access

theorem Activity.isSome_step_of_access [Remote ρ τ σ] {g : Gateway ρ σ} {id : TaskId}
    {act : Activity τ σ} {a : Access τ σ} (ha : act.access? = some a)
    (h : (a.step id g).isSome) : (act.step id g).isSome := by
  obtain ⟨⟨g', n⟩, hstep⟩ := Option.isSome_iff_exists.1 h
  rw [step_of_access ha (Access.step_of_eq_some hstep)]
  rfl

namespace System

variable [Remote ρ τ σ] {s : System ρ τ σ} {id id' : TaskId} {h h' : HolderId} {total : Nat}

/-- The remote side is at work for a task. -/
def AtRemote (s : System ρ τ σ) (id : TaskId) : Prop :=
  ∃ t, s.task? id = some t ∧ t.activity.AtRemote

/-- A task has not come to its result. -/
def Unfinished (s : System ρ τ σ) (id : TaskId) : Prop :=
  ∃ t, s.task? id = some t ∧ t.activity.result? = none

/-- A task can take its next step, which does not end an operation of the remote side. -/
def CanGoOn (s : System ρ τ σ) (id : TaskId) : Prop := ¬ s.AtRemote id ∧ (s.advance? id).isSome

/-- A task waits for the lock of a holder. -/
def WaitsForLock (s : System ρ τ σ) (id : TaskId) (h : HolderId) : Prop :=
  ∃ m, (id, m) ∈ (s.gateway.lock h).queue

/-- A task has the lock of a holder. -/
def HasLock (s : System ρ τ σ) (id : TaskId) (h : HolderId) : Prop :=
  ∃ m, (id, m) ∈ (s.gateway.lock h).held

/-- A task waits for a lock that another one has, or for a permit while the other one has one. -/
def WaitsFor (s : System ρ τ σ) (id id' : TaskId) : Prop :=
  (∃ h, s.WaitsForLock id h ∧ s.HasLock id' h) ∨
    id ∈ s.gateway.workers.queue ∧ id' ∈ s.gateway.workers.held

/-- The waits of a task end at one that can go on, or for which the remote side is at work. -/
def Progresses (s : System ρ τ σ) (id : TaskId) : Prop :=
  ∃ id', Relation.ReflTransGen s.WaitsFor id id' ∧ (s.AtRemote id' ∨ s.CanGoOn id')

omit [Remote ρ τ σ] in
/-- **Nobody waits for a lock while it has one**, of the same holder or of another. -/
theorem not_hasLock_of_waitsForLock (hs : Disciplined s) (hw : s.WaitsForLock id h) :
    ¬ s.HasLock id h' := by
  rintro ⟨m', hm'⟩
  obtain ⟨m, hm⟩ := hw
  -- Both entries belong to the one access that the task has under way.
  obtain ⟨a, ha, hh, -⟩ := hs.entry (List.mem_append_right _ hm)
  obtain ⟨a', ha', hh', -⟩ := hs.entry (Lock.mem_entries_of_held hm')
  obtain rfl := Option.some.inj (ha.symm.trans ha')
  obtain rfl := hh.symm.trans hh'
  have hnodup := (hs.orderly h).nodup
  rw [Lock.entries, List.map_append] at hnodup
  exact List.disjoint_of_nodup_append hnodup (List.mem_map.2 ⟨_, hm', rfl⟩)
    (List.mem_map.2 ⟨_, hm, rfl⟩)

theorem isSome_advance? {t : Task τ σ} (ht : s.task? id = some t)
    (h : (t.step id s.gateway).isSome) : (s.advance? id).isSome := by
  obtain ⟨⟨g, t'⟩, hstep⟩ := Option.isSome_iff_exists.1 h
  simp only [advance?, ht, hstep, Option.bind_eq_bind, Option.bind_some, Option.pure_def,
    Option.isSome_some]

omit [Remote ρ τ σ] in
theorem Task.isSome_step [Remote ρ τ σ] {g : Gateway ρ σ} {t : Task τ σ}
    (hq : ∀ line, t.activity ≠ .queueing line) (h : (t.activity.step id g).isSome) :
    (t.step id g).isSome := by
  rw [Task.step]
  split
  · next line hline => exact absurd hline (hq line)
  · rw [Option.isSome_map]
    exact h

/-- A task that can take a step goes on, unless the step ends an operation of the remote side. -/
theorem atRemote_or_canGoOn (h : (s.advance? id).isSome) : s.AtRemote id ∨ s.CanGoOn id := by
  by_cases hr : s.AtRemote id
  · exact .inl hr
  · exact .inr ⟨hr, h⟩

theorem progresses_of_self (h : s.AtRemote id ∨ s.CanGoOn id) : s.Progresses id := ⟨id, .refl, h⟩

/-- Who has all the locks that it has asked for can take its next step. -/
theorem isSome_advance?_of_access {a : Access τ σ} (ha : s.access? id = some a)
    (hl : ∀ m, a.stage.mode? = some m → (id, m) ∈ (s.gateway.lock a.holder).held) :
    (s.advance? id).isSome := by
  obtain ⟨t, ht, hact⟩ := Option.bind_eq_some_iff.1 ha
  refine isSome_advance? ht (Task.isSome_step (fun line hline => ?_) ?_)
  · rw [hline] at hact
    cases hact
  · exact Activity.isSome_step_of_access hact (Access.isSome_step hl)

/-- A task with an access can take its next step, or waits for a lock; who has the lock can take its
next step then. -/
theorem advance?_or_waitsFor_of_access (hs : Disciplined s) (hl : Attended s) {a : Access τ σ}
    (ha : s.access? id = some a) :
    (s.advance? id).isSome ∨ ∃ id' a', s.access? id' = some a' ∧ a'.holder = a.holder ∧
      s.WaitsFor id id' ∧ (s.advance? id').isSome := by
  by_cases hall : ∀ m, a.stage.mode? = some m → (id, m) ∈ (s.gateway.lock a.holder).held
  · exact .inl (isSome_advance?_of_access ha hall)
  · obtain ⟨m, hm, hnot⟩ : ∃ m, a.stage.mode? = some m ∧
        (id, m) ∉ (s.gateway.lock a.holder).held := by
      simpa using hall
    have hqueue : (id, m) ∈ (s.gateway.lock a.holder).queue :=
      (List.mem_append.1 (hl.asked ha hm)).resolve_left hnot
    obtain ⟨⟨id', m'⟩, hheld⟩ := (hl.full a.holder).exists_held hqueue
    obtain ⟨a', ha', hh, hm'⟩ := hs.entry (Lock.mem_entries_of_held hheld)
    refine .inr ⟨id', a', ha', hh, .inl ⟨a.holder, ⟨m, hqueue⟩, m', hheld⟩, ?_⟩
    refine isSome_advance?_of_access ha' fun m'' hm'' => ?_
    rw [hm'] at hm''
    cases hm''
    rw [hh]
    exact hheld

/-- **The waits of a task with an access end**: who has the lock that it waits for goes on. -/
theorem progress_of_access (hs : Disciplined s) (hl : Attended s) {a : Access τ σ}
    (ha : s.access? id = some a) : s.Progresses id := by
  rcases advance?_or_waitsFor_of_access hs hl ha with hself | ⟨id', -, -, -, hwaits, hgoes⟩
  · exact progresses_of_self (atRemote_or_canGoOn hself)
  · exact ⟨id', .single hwaits, atRemote_or_canGoOn hgoes⟩

/-- The waits of a task that waits for no permit end. -/
theorem progress_of_not_queueing (hs : Disciplined s) (hl : Attended s) {t : Task τ σ}
    (ht : s.task? id = some t) (hu : t.activity.result? = none)
    (hq : ∀ line, t.activity ≠ .queueing line) : s.Progresses id := by
  cases ha : t.activity.access? with
  | some a => exact progress_of_access hs hl ((access?_of_task? ht).trans ha)
  | none =>
    have hremote (hr : t.activity.AtRemote) : s.Progresses id :=
      progresses_of_self (.inl ⟨t, ht, hr⟩)
    have hstep (h : (t.activity.step id s.gateway).isSome) : s.Progresses id :=
      progresses_of_self (atRemote_or_canGoOn (isSome_advance? ht (Task.isSome_step hq h)))
    cases hact : t.activity with
    | beginning | returning | sweeping => exact hstep (by rw [hact]; rfl)
    | opening | reading | ending => exact hremote (by rw [hact]; trivial)
    | queueing line => exact absurd hact (hq line)
    | finished =>
      rw [hact] at hu
      cases hu
    | requesting | accessing | clearing =>
      rw [hact] at ha
      cases ha

/-- A task that waits for a permit can take its next step when it has one, and when none are given
any longer. -/
theorem isSome_advance?_of_queueing {t : Task τ σ} {line : String} (ht : s.task? id = some t)
    (hq : t.activity = .queueing line)
    (h : s.gateway.workers.withdrawn = true ∨ id ∈ s.gateway.workers.held) :
    (s.advance? id).isSome := by
  refine isSome_advance? ht ?_
  have hcontains : s.gateway.workers.withdrawn = false →
      s.gateway.workers.held.contains id = true := by
    intro hw
    rw [List.contains_iff_mem]
    exact h.resolve_left (Bool.eq_false_iff.1 hw)
  rw [Task.step, hq]
  simp only [Task.takeUp]
  split
  · rfl
  · next hw => rw [if_pos (hcontains (Bool.eq_false_iff.2 hw))]; rfl

/-- **The waits of a task that waits for a permit end**: who has a permit goes on, or waits for a
lock. -/
theorem progress_of_queueing (hs : Disciplined s) (hl : Attended s) (hp : Staffed total s)
    (hpos : 1 ≤ total) {t : Task τ σ} {line : String} (ht : s.task? id = some t)
    (hq : t.activity = .queueing line) : s.Progresses id := by
  by_cases hgoes : s.gateway.workers.withdrawn = true ∨ id ∈ s.gateway.workers.held
  · exact progresses_of_self (atRemote_or_canGoOn (isSome_advance?_of_queueing ht hq hgoes))
  · obtain ⟨-, hnot⟩ := not_or.1 hgoes
    have hqueue : id ∈ s.gateway.workers.queue :=
      (List.mem_append.1 (hp.entered ht hq)).resolve_left hnot
    obtain ⟨id', hheld⟩ := hp.sound.exists_held hpos hqueue
    obtain ⟨t', ht', hengaged⟩ := hp.engaged (List.mem_append_left _ hheld)
    have hnext : s.Progresses id' := by
      by_cases hq' : ∃ line', t'.activity = .queueing line'
      · obtain ⟨line', hq'⟩ := hq'
        exact progresses_of_self
          (atRemote_or_canGoOn (isSome_advance?_of_queueing ht' hq' (.inr hheld)))
      · exact progress_of_not_queueing hs hl ht' hengaged.unfinished
          fun line' he => hq' ⟨line', he⟩
    obtain ⟨id'', hwaits, hend⟩ := hnext
    exact ⟨id'', .head (.inr ⟨hqueue, hheld⟩) hwaits, hend⟩

/-- The invariants that rule out deadlocks. -/
structure WellKept (total : Nat) (s : System ρ τ σ) : Prop where
  current : Current s
  disciplined : Disciplined s
  attended : Attended s
  staffed : Staffed total s

theorem WellKept.after? {s' : System ρ τ σ} {e : Event ρ σ} (hs : WellKept total s)
    (hP : Proper s e) (he : s.after? e = some s') : WellKept total s' := by
  have hc := change_of_after? he
  have hd := hs.disciplined.change hc
  exact ⟨hs.current.after? hP he, hd, hs.attended.change hs.current hd hc, hs.staffed.after? he⟩

omit [Remote ρ τ σ] in
theorem wellKept_start (remote : ρ) (total : Nat) :
    WellKept total (start remote ⟨total, [], [], false⟩ : System ρ τ σ) :=
  ⟨current_start _ _, disciplined_start _ _, attended_start _ _, staffed_start _ _⟩

theorem wellKept_of_run {remote : ρ} {es : List (Event ρ σ)}
    (hr : RunWhere Proper (start remote ⟨total, [], [], false⟩) es s) : WellKept total s :=
  hr.preserves (fun hs hP he => hs.after? hP he) (wellKept_start remote total)

/-- The waits of every task end. -/
theorem WellKept.progresses (hs : WellKept total s) (hpos : 1 ≤ total) (hu : s.Unfinished id) :
    s.Progresses id := by
  obtain ⟨t, ht, hu⟩ := hu
  by_cases hq : ∃ line, t.activity = .queueing line
  · obtain ⟨line, hq⟩ := hq
    exact progress_of_queueing hs.disciplined hs.attended hs.staffed hpos ht hq
  · exact progress_of_not_queueing hs.disciplined hs.attended ht hu fun line he => hq ⟨line, he⟩

/-- **No run leads to a deadlock**, whatever requests and operations on the cache are mixed, if
there is at least one permit for the requests. Nobody waits for the lock of a holder while it has
one. The waits of every task that has not come to its result end at a task that can take its next
step or for which the remote side is at work; so if the remote side is at work for nobody, some task
can take its next step. -/
theorem no_deadlock {remote : ρ} {workers : Nat} {es : List (Event ρ σ)} (hpos : 1 ≤ workers)
    (hr : RunWhere Proper (start remote ⟨workers, [], [], false⟩) es s) :
    (∀ id h h', s.WaitsForLock id h → ¬ s.HasLock id h') ∧
      (∀ id, s.Unfinished id → ∃ id', Relation.ReflTransGen s.WaitsFor id id' ∧
        (s.AtRemote id' ∨ s.CanGoOn id')) ∧
      ∀ id, s.Unfinished id → (∀ id', ¬ s.AtRemote id') → ∃ id', s.CanGoOn id' := by
  have hs := wellKept_of_run hr
  refine ⟨fun id h h' hw => not_hasLock_of_waitsForLock hs.disciplined hw,
    fun id hu => hs.progresses hpos hu, fun id hu hidle => ?_⟩
  obtain ⟨id', -, hend⟩ := hs.progresses hpos hu
  exact ⟨id', hend.resolve_left (hidle id')⟩

/-- With one permit for requests, a request has connected a holder and shares its lock, the cache is
asked to close that holder, and another request waits for the permit. -/
def crowded : List (Event Registry Nat) :=
  [.alter (·.register "u"), .begin (.submit "GET u %s b a")] ++ List.replicate 8 (.advance 0) ++
    [.begin (.evict "u"), .advance 1, .advance 1, .begin (.submit "CLOSE u"), .advance 2]

/-- Endpoints in memory and one permit. -/
def onePermit : System Registry Registry.Found Nat := start {} ⟨1, [], [], false⟩

theorem no_deadlock_crowded :
    (onePermit.behind crowded).WaitsForLock 1 0 ∧ ¬ (onePermit.behind crowded).HasLock 1 0 ∧
      (onePermit.behind crowded).Unfinished 2 ∧
      (∀ id', ¬ (onePermit.behind crowded).AtRemote id') ∧
      ∃ id', (onePermit.behind crowded).CanGoOn id' := by
  have hr : Run onePermit crowded (onePermit.behind crowded) := run_behind (by decide +kernel)
  obtain ⟨hlock, -, hgoes⟩ := no_deadlock (Nat.le_refl 1) (hr.proper rfl)
  have hwaits : (onePermit.behind crowded).WaitsForLock 1 0 := by
    have hqueue : ((onePermit.behind crowded).gateway.lock 0).queue = [(1, .exclusive)] := by
      decide +kernel
    exact ⟨.exclusive, by rw [hqueue]; exact List.mem_singleton_self _⟩
  have hunfinished : (onePermit.behind crowded).Unfinished 2 := by
    have htask : (onePermit.behind crowded).task? 2 = some ⟨.queueing "CLOSE u", false⟩ := by
      with_unfolding_all rfl
    exact ⟨_, htask, rfl⟩
  have hidle : ∀ id', ¬ (onePermit.behind crowded).AtRemote id' := by
    have hall : (onePermit.behind crowded).tasks.all
        (fun o => o.all fun t => !decide t.activity.AtRemote) = true := by decide +kernel
    rintro id' ⟨t, ht, hremote⟩
    have hmem : some t ∈ (onePermit.behind crowded).tasks :=
      List.mem_of_getElem? (Option.join_eq_some_iff.1 ht)
    simpa [hremote] using List.all_eq_true.1 hall _ hmem
  exact ⟨hwaits, hlock 1 0 0 hwaits, hunfinished, hidle, hgoes 2 hunfinished hidle⟩

end System

end AttributeGateway
