import AttributeGateway.Proofs.Gateway.Caching

/-!
# Who closes holders

A holder becomes closed by a step of a task that has its lock alone. A request closes at most one
holder, and then only answers; whoever empties the cache closes at most one holder for each of the
URLs that were cached in the beginning. So a task closes at most one holder of an endpoint, and two
holders of one endpoint are closed by two tasks.

* `System.ClosedBy` — a task has closed a holder in a run.
* `Activity.Tidy` — accesses close holders when they should, and no URL is swept twice.
* `Activity.Spent` — a task will close no holder of an endpoint any more.
* `closes_once` — in every run in which holders are closed by way of the cache, a task closes at
  most one holder of an endpoint.
-/

namespace AttributeGateway

variable {ρ τ σ : Type}

/-- A request that accesses a holder to close it. -/
def Purpose.Closes : Purpose → Prop
  | .givingUp _ | .dropping => True
  | _ => False

/-- An access that will not close its holder any more. -/
def Access.Passed (a : Access τ σ) : Prop := a.aim = .close → ∃ x, a.stage = .ending x

namespace Activity

variable {g g' : Gateway ρ σ} {act act' : Activity τ σ} {h : HolderId} {u : String} {id : TaskId}
  {a : Access τ σ} {next : Gateway ρ σ × Activity τ σ}

/-! ### Tidy activities -/

/-- Accesses of requests close holders when they should, and no URL is swept twice. -/
def Tidy (g : Gateway ρ σ) : Activity τ σ → Prop
  | .requesting p a => a.aim = .close ↔ p.Closes
  | .sweeping urls => urls.Nodup
  | .clearing a urls => (g.endpoint a.holder :: urls).Nodup
  | _ => True

theorem Tidy.grows (ht : act.Tidy g) (hs : act.Sound g) (hg : g.Grows g') : act.Tidy g' := by
  cases act with
  | clearing a urls =>
    rw [Tidy, hg.endpoint hs.1]
    exact ht
  | _ => exact ht

theorem Turn.tidy {r : Reading} {inside : Bool} {failed : Fault → Prop}
    (ht : Turn h r inside failed g next) : next.2.Tidy next.1 := by
  cases ht with
  | done => trivial
  | fetch => exact ⟨nofun, nofun⟩
  | giveUp => exact ⟨fun _ => trivial, fun _ => rfl⟩

theorem Quiet.tidy [Remote ρ τ σ] (hq : Quiet id g act next) (hk : g.Keyed)
    (ht : act.Tidy g) : next.2.Tidy next.1 := by
  cases hq with
  | get hp hc => exact ⟨nofun, nofun⟩
  | drop hp hc he => exact ⟨fun _ => trivial, fun _ => rfl⟩
  | invalidate h => exact List.nodup_singleton _
  | drain => exact g.cache.nodup
  | @clear _ url urls h g' ha he =>
    -- The holder of a URL that is swept belongs to that URL.
    have hend : g'.endpoint h = url := by
      have hu : g.cached? url = some h := congrArg Prod.fst he
      obtain ⟨hm, hend⟩ := hk url h hu
      exact ((Gateway.evolves_evict he).grows.endpoint hm).trans hend
    rw [Tidy, hend]
    rcases ha with rfl | ⟨-, rfl⟩
    · exact ht
    · exact List.nodup_singleton _
  | skip ha he =>
    rcases ha with rfl | ⟨-, rfl⟩
    · exact (List.nodup_cons.1 ht).2
    · exact List.nodup_nil
  | search ha => rcases ha with ⟨found, rfl⟩ | ⟨error, rfl⟩ <;> trivial
  | resume hr =>
    cases hr with
    | reconnect | refresh => exact ⟨nofun, nofun⟩
    | goOn _ ht | settle _ ht => exact ht.tidy
    | refuse | gaveUp | dropped => trivial
  | _ => trivial

theorem Tidy.step [Remote ρ τ σ] (ht : act.Tidy g) (hk : g.Keyed)
    (h : act.step id g = some (g', act')) : act'.Tidy g' := by
  cases ha : act.access? with
  | some a =>
    obtain ⟨n, hstep, rfl⟩ := step_access ha h
    cases act with
    | requesting p b =>
      cases ha
      cases n with
      | inl b' =>
        rw [onward, Tidy, hstep.same.2]
        exact ht
      | inr o => trivial
    | accessing b =>
      cases n <;> trivial
    | clearing b urls =>
      cases ha
      cases n with
      | inl b' =>
        rw [onward, Tidy, hstep.same.1, hstep.touches.endpoint]
        exact ht
      | inr o => exact (List.nodup_cons.1 ht).2
    | _ => cases ha
  | none => exact (quiet_of_step ha h).tidy hk ht

/-! ### Spent activities -/

/-- An activity that will close no holder of an endpoint any more. -/
def Spent (g : Gateway ρ σ) (u : String) : Activity τ σ → Prop
  | .beginning _ | .queueing _ => False
  | .requesting p a => p.Closes ∧ a.Passed
  | .returning p _ _ => p.Closes
  | .accessing a => a.Passed
  | .sweeping urls => u ∉ urls
  | .clearing a urls => u ∉ urls ∧ (g.endpoint a.holder = u → a.Passed)
  | _ => True

theorem Spent.grows (ht : act.Spent g u) (hs : act.Sound g) (hg : g.Grows g') :
    act.Spent g' u := by
  cases act with
  | clearing a urls =>
    rw [Spent, hg.endpoint hs.1]
    exact ht
  | _ => exact ht

/-- A request that has closed its holder only answers. -/
theorem Resumed.spent {p : Purpose} {o : Outcome} (hr : Resumed h g p o next)
    (hp : p.Closes) : next.2.Spent next.1 u := by
  cases hr with
  | gaveUp | dropped => trivial
  | _ => cases hp

theorem Quiet.spent [Remote ρ τ σ] (hq : Quiet id g act next) (hk : g.Keyed)
    (hs : act.Spent g u) : next.2.Spent next.1 u := by
  cases hq with
  | swept => trivial
  | @clear _ url urls h g' ha he =>
    rcases ha with rfl | ⟨rfl, -⟩
    · obtain ⟨hne, hu⟩ := not_or.1 (mt List.mem_cons.2 hs)
      refine ⟨hu, fun hend => absurd ?_ hne⟩
      obtain ⟨hm, hurl⟩ := hk url h (congrArg Prod.fst he)
      rw [(Gateway.evolves_evict he).grows.endpoint hm, hurl] at hend
      exact hend.symm
    · cases hs
  | skip ha he =>
    rcases ha with rfl | ⟨rfl, -⟩
    · exact (not_or.1 (mt List.mem_cons.2 hs)).2
    · cases hs
  | resume hr => exact hr.spent hs
  | opened | unopened | read | ended => trivial
  | _ => cases hs

/-- **A spent activity stays so.** -/
theorem Spent.step [Remote ρ τ σ] (hs : act.Spent g u) (hk : g.Keyed)
    (h : act.step id g = some (g', act')) : act'.Spent g' u := by
  cases ha : act.access? with
  | some a =>
    obtain ⟨n, hstep, rfl⟩ := step_access ha h
    have hpassed : a.Passed → ∀ b, n = .inl b → b.Passed := by
      rintro hp b rfl haim
      obtain ⟨x, hst⟩ := hp (hstep.same.2.symm.trans haim)
      cases (hstep.of_ending hst).1
    cases act with
    | requesting p b =>
      cases ha
      cases n with
      | inl b' => exact ⟨hs.1, hpassed hs.2 b' rfl⟩
      | inr o => exact hs.1
    | accessing b =>
      cases ha
      cases n with
      | inl b' => exact hpassed hs b' rfl
      | inr o => trivial
    | clearing b urls =>
      cases ha
      cases n with
      | inl b' =>
        refine ⟨hs.1, fun hend => hpassed (hs.2 ?_) b' rfl⟩
        rw [hstep.same.1, hstep.touches.endpoint] at hend
        exact hend
      | inr o => exact hs.1
    | _ => cases ha
  | none => exact (quiet_of_step ha h).spent hk hs

/-- An activity that closes the holder of its access is spent. -/
theorem Tidy.spent_of_closes [Remote ρ τ σ] (ht : act.Tidy g) (ha : act.access? = some a)
    {n : Access.Next τ σ} (hstep : a.Step id g g' n) (hk : g.link a.holder ≠ .closed)
    (hk' : g'.link a.holder = .closed) : (act.onward n).Spent g' (g.endpoint a.holder) := by
  rcases hstep.closes hk' with hclosed | ⟨haim, -, hn⟩
  · exact absurd hclosed hk
  have hpassed : ∀ b, n = .inl b → b.Passed := by
    rintro b rfl -
    rcases hn with ⟨x, b', -, hb, hst⟩ | ⟨-, hb⟩
    · cases hb
      exact ⟨x, hst⟩
    · cases hb
  cases act with
  | requesting p b =>
    cases ha
    cases n with
    | inl b' => exact ⟨ht.1 haim, hpassed b' rfl⟩
    | inr o => exact ht.1 haim
  | accessing b =>
    cases ha
    cases n with
    | inl b' => exact hpassed b' rfl
    | inr o => trivial
  | clearing b urls =>
    cases ha
    obtain ⟨hnot, -⟩ := List.nodup_cons.1 ht
    cases n with
    | inl b' => exact ⟨hnot, fun _ => hpassed b' rfl⟩
    | inr o => exact hnot
  | _ => cases ha

/-- A spent activity does not close a holder of the endpoint. -/
theorem Spent.not_closing (hs : act.Spent g u) (ha : act.access? = some a)
    (hu : g.endpoint a.holder = u) (haim : a.aim = .close) : a.stage ≠ .excluding := by
  have hpassed : a.Passed := by
    cases act with
    | requesting p b =>
      cases ha
      exact hs.2
    | accessing b =>
      cases ha
      exact hs
    | clearing b urls =>
      cases ha
      exact hs.2 hu
    | _ => cases ha
  obtain ⟨x, hst⟩ := hpassed haim
  rw [hst]
  nofun
end Activity

namespace System

variable [Remote ρ τ σ] {s₀ s s' u : System ρ τ σ} {h h' : HolderId} {url : String}
  {id j : TaskId} {e : Event ρ σ} {es es₀ : List (Event ρ σ)}

/-! ### Closings in a run -/

/-- A holder is closed by the step of a task that accesses it for that. -/
theorem closer (he : s.after? e = some s') (hk : s.gateway.link h ≠ .closed)
    (hk' : s'.gateway.link h = .closed) :
    ∃ id a, e = .advance id ∧ s.access? id = some a ∧ a.holder = h ∧ a.aim = .close ∧
      a.stage = .excluding := by
  cases change_of_after? he with
  | @move id a g n _ ha hstep hg =>
    have hlink : g.link h = .closed := by
      rw [hg] at hk'
      exact hk'
    by_cases hh : h = a.holder
    · subst hh
      rcases hstep.closes hlink with hclosed | ⟨haim, hst, -⟩
      · exact absurd hclosed hk
      · exact ⟨id, a, rfl, ha, rfl, haim, hst⟩
    · rw [hstep.touches.link h hh] at hlink
      exact absurd hlink hk
  | @drop id a _ ha hg =>
    rw [hg] at hk'
    exact absurd ((Gateway.link_modifyLock s.gateway a.holder h (·.leave id)).symm.trans hk') hk
  | quiet remote hg => exact absurd ((hg.link h).symm.trans hk') hk

/-- A task has closed a holder. -/
def ClosedBy (s : System ρ τ σ) (es : List (Event ρ σ)) (h : HolderId) (id : TaskId) : Prop :=
  ∃ u u', Occurs s es u (.advance id) u' ∧ u.gateway.link h ≠ .closed ∧
    u'.gateway.link h = .closed

theorem closedBy_snoc (hr : Run s₀ es s) (he : s.after? e = some s') :
    ClosedBy s₀ (es ++ [e]) h id ↔ ClosedBy s₀ es h id ∨
      e = .advance id ∧ s.gateway.link h ≠ .closed ∧ s'.gateway.link h = .closed := by
  constructor
  · rintro ⟨u, u', ho, hk, hk'⟩
    rcases (occurs_snoc hr he).1 ho with ho | ⟨rfl, rfl, rfl⟩
    · exact .inl ⟨u, u', ho, hk, hk'⟩
    · exact .inr ⟨rfl, hk, hk'⟩
  · rintro (⟨u, u', ho, hk, hk'⟩ | ⟨rfl, hk, hk'⟩)
    · exact ⟨u, u', (occurs_snoc hr he).2 (.inl ho), hk, hk'⟩
    · exact ⟨s, s', (occurs_snoc hr he).2 (.inr ⟨rfl, rfl, rfl⟩), hk, hk'⟩

/-- A holder that is closed in a run is closed by a task. -/
theorem exists_closedBy (hr : Run s₀ es s) (hk : s₀.gateway.link h ≠ .closed)
    (hk' : s.gateway.link h = .closed) : ∃ j, ClosedBy s₀ es h j := by
  induction hr with
  | nil => exact absurd hk' hk
  | @snoc u u' es e hr he ih =>
    by_cases hu : u.gateway.link h = .closed
    · obtain ⟨j, hj⟩ := ih hu
      exact ⟨j, (closedBy_snoc hr he).2 (.inl hj)⟩
    · obtain ⟨j, a, rfl, -⟩ := closer he hu hk'
      exact ⟨j, (closedBy_snoc hr he).2 (.inr ⟨rfl, hu, hk'⟩)⟩

/-- The activities of tasks are sound and tidy. -/
def Tidy (s : System ρ τ σ) : Prop :=
  ∀ id t, s.task? id = some t → t.activity.Sound s.gateway ∧ t.activity.Tidy s.gateway

theorem Tidy.after? (ht : Tidy s) (hs : Current s) (hP : Proper s e)
    (he : s.after? e = some s') : Tidy s' := by
  refine activity_after? (I := fun g act => act.Sound g ∧ act.Tidy g) he ht ?_ ?_
    (fun _ => ⟨trivial, trivial⟩) ⟨trivial, trivial⟩ ?_
  · exact fun hI hg => ⟨hI.1.grows hg, hI.2.grows hI.1 hg⟩
  · exact fun hI hstep => ⟨hI.1.step hs.keyed hstep, hI.2.step hs.keyed hstep⟩
  · rintro op rfl
    exact ⟨sound_beginning hP he, trivial⟩

theorem tidy_of_run {remote : ρ} {workers : Permits}
    (hr : RunWhere Proper (start remote workers) es s) : Tidy s := by
  have hboth : Current s ∧ Tidy s := by
    refine hr.preserves (I := fun u => Current u ∧ Tidy u) ?_
      ⟨current_start remote workers, fun id t ht => by cases ht⟩
    rintro u e u' ⟨hs, ht⟩ hP he
    exact ⟨hs.after? hP he, ht.after? hs hP he⟩
  exact hboth.2

/-- A task that will close no holder of an endpoint any more. -/
def SpentBy (s : System ρ τ σ) (id : TaskId) (url : String) : Prop :=
  id < s.tasks.length ∧ ∀ t, s.task? id = some t → t.activity.Spent s.gateway url

theorem SpentBy.after? (hsp : SpentBy s id url) (hs : Current s) (he : s.after? e = some s') :
    SpentBy s' id url := by
  refine ⟨Nat.lt_of_lt_of_le hsp.1 (length_tasks_le he), fun t' ht' => ?_⟩
  rcases task?_cases he ht' with hsame | ⟨t, -, ht, hstep⟩ | ⟨op, -, -, hid⟩
  · exact (hsp.2 t' hsame).grows (hs.sound id t' hsame) (grows_of_after? he)
  · have hspent := hsp.2 t ht
    rcases Task.step_cases hstep with ⟨line, hline, -⟩ | ⟨g₁, hact, hw⟩
    · rw [hline] at hspent
      cases hspent
    · rw [hw]
      exact (hspent.step hs.keyed hact).grows ((hs.sound id t ht).step hs.keyed hact)
        (g₁.evolves_workers _).grows
  · exact absurd hid (Nat.ne_of_lt hsp.1)

/-- A task that closes a holder will close no other of its endpoint. -/
theorem Tidy.spentBy_of_closes (ht : Tidy s) (hs : Current s)
    (he : s.after? (.advance id) = some s') (hk : s.gateway.link h ≠ .closed)
    (hk' : s'.gateway.link h = .closed) :
    s.gateway.Made h ∧ SpentBy s' id (s.gateway.endpoint h) := by
  obtain ⟨t, t', htask, hstep, htasks⟩ := advance_cases he
  obtain ⟨_, a, hid, haccess, rfl, haim, -⟩ := closer he hk hk'
  cases hid
  have ha : t.activity.access? = some a := (access?_of_task? htask).symm.trans haccess
  have hmade := ((hs.sound id t htask).access ha).1
  have hlt : id < s'.tasks.length := Nat.lt_of_lt_of_le (lt_of_task? htask) (length_tasks_le he)
  refine ⟨hmade, hlt, fun t₁ ht₁ => ?_⟩
  rw [task?_of_set htask htasks, if_pos rfl] at ht₁
  cases ht₁
  rcases Task.step_cases hstep with ⟨line, hline, -⟩ | ⟨g₁, hact, hw⟩
  · rw [hline] at ha
    cases ha
  · obtain ⟨n, hn, hon⟩ := Activity.step_access ha hact
    rw [hw] at hk'
    rw [hw, hon]
    refine ((ht id t htask).2.spent_of_closes ha hn hk hk').grows ?_ (g₁.evolves_workers _).grows
    rw [← hon]
    exact (hs.sound id t htask).step hs.keyed hact

/-- What the closings of a run leave behind. -/
structure Accounted (s₀ : System ρ τ σ) (es : List (Event ρ σ)) (s : System ρ τ σ) : Prop where
  /-- Who has closed a holder will close no other of its endpoint. -/
  spent : ∀ {h id}, ClosedBy s₀ es h id →
    s.gateway.Made h ∧ SpentBy s id (s.gateway.endpoint h)
  /-- Nobody has closed two holders of one endpoint. -/
  once : ∀ {h h' id}, ClosedBy s₀ es h id → ClosedBy s₀ es h' id →
    s.gateway.endpoint h = s.gateway.endpoint h' → h = h'

theorem Accounted.snoc (ha : Accounted s₀ es s) (hr : Run s₀ es s) (hs : Current s)
    (ht : Tidy s) (he : s.after? e = some s') : Accounted s₀ (es ++ [e]) s' := by
  have hg := grows_of_after? he
  have hold : ∀ {h id}, ClosedBy s₀ es h id →
      s'.gateway.endpoint h = s.gateway.endpoint h := fun {h id} hc => hg.endpoint (ha.spent hc).1
  have hnew : ∀ {h id}, e = .advance id → s.gateway.link h ≠ .closed →
      s'.gateway.link h = .closed → s.gateway.Made h ∧ SpentBy s' id (s.gateway.endpoint h) :=
    fun {h id} heq hk hk' => ht.spentBy_of_closes hs (heq ▸ he) hk hk'
  -- Who has closed a holder before does not close another one of its endpoint now.
  have hnot : ∀ {h h' id}, ClosedBy s₀ es h id → e = .advance id →
      s.gateway.link h' ≠ .closed → s'.gateway.link h' = .closed →
      s'.gateway.endpoint h ≠ s'.gateway.endpoint h' := by
    intro h h' id hc heq hk hk' hend
    obtain ⟨id', a, heq', haccess, rfl, haim, hst⟩ := closer he hk hk'
    rw [heq] at heq'
    cases heq'
    obtain ⟨t, htask, hact⟩ := Option.bind_eq_some_iff.1 haccess
    rw [hold hc, hg.endpoint (hnew heq hk hk').1] at hend
    exact ((ha.spent hc).2.2 t htask).not_closing hact hend.symm haim hst
  refine ⟨fun {h id} hc => ?_, fun {h h' id} hc hc' hend => ?_⟩
  · rcases (closedBy_snoc hr he).1 hc with hc | ⟨heq, hk, hk'⟩
    · rw [hold hc]
      exact ⟨hg.made (ha.spent hc).1, (ha.spent hc).2.after? hs he⟩
    · obtain ⟨hm, hsp⟩ := hnew heq hk hk'
      rw [hg.endpoint hm]
      exact ⟨hg.made hm, hsp⟩
  · rcases (closedBy_snoc hr he).1 hc with hc | ⟨heq, hk, hk'⟩ <;>
      rcases (closedBy_snoc hr he).1 hc' with hc' | ⟨heq', hk₁, hk₁'⟩
    · rw [hold hc, hold hc'] at hend
      exact ha.once hc hc' hend
    · exact absurd hend (hnot hc heq' hk₁ hk₁')
    · exact absurd hend.symm (hnot hc' heq hk hk')
    · obtain ⟨id₁, a₁, heq₁, haccess₁, hh₁, -⟩ := closer he hk hk'
      obtain ⟨id₂, a₂, heq₂, haccess₂, hh₂, -⟩ := closer he hk₁ hk₁'
      rw [heq₁] at heq₂
      cases heq₂
      rw [haccess₁] at haccess₂
      cases haccess₂
      exact hh₁.symm.trans hh₂

theorem accounted_of_run {remote : ρ} {workers : Permits}
    (hr₀ : RunWhere Proper (start remote workers) es₀ s₀) (hr : RunWhere Proper s₀ es s) :
    Accounted s₀ es s := by
  induction hr with
  | nil =>
    have hno : ∀ {h id}, ¬ ClosedBy s₀ [] h id := by
      rintro h id ⟨u, u', ⟨es₁, es₂, heq, -⟩, -⟩
      simp at heq
    exact ⟨fun hc => absurd hc hno, fun hc => absurd hc hno⟩
  | snoc hr hP he ih =>
    have hrun := hr₀.trans hr
    exact ih.snoc hr.run (current_of_run hrun) (tidy_of_run hrun) he

/-- **A task closes at most one holder of an endpoint**, in every run in which holders are closed by
way of the cache. -/
theorem closes_once {remote : ρ} {workers : Permits}
    (hr₀ : RunWhere Proper (start remote workers) es₀ s₀) (hr : RunWhere Proper s₀ es s)
    (hc : ClosedBy s₀ es h id) (hc' : ClosedBy s₀ es h' id)
    (hend : s.gateway.endpoint h = s.gateway.endpoint h') : h = h' :=
  (accounted_of_run hr₀ hr).once hc hc' hend

end System

end AttributeGateway
