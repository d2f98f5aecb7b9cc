import AttributeGateway.Proofs.Gateway.Pursuits
import AttributeGateway.Proofs.Gateway.Tending

/-!
# Giving up

A request that gives up because a read through a holder has failed takes this holder out of the
cache and closes it before it answers. Meanwhile others may have taken the holder out of the cache,
closed it, or cached and connected another one under its URL. So what leaves the cache is the holder
and not whatever its URL stands for, and the request closes the holder even if it was not cached any
more; it waits then for those who are closing it already.

* `System.FailedThrough` — in the course of events a read through a holder has failed, so that a
  request has given up.
* `System.Seeking`, `System.Quitting` — what is known of a request before and after;
  `Tracked.after?` says that every event keeps it.
* `System.needs_of_run` — a request reads only what its queries need.
* `System.SparesOthers` — a step of a request that does no harm to any holder but one.
* `System.failed_holder_closed` — when a request answers that a channel has failed, the holder is
  done with, and the request has spared every other one.
-/

namespace AttributeGateway

variable {ρ τ σ : Type}

namespace System

variable [Remote ρ τ σ] {s s' s₀ u u' : System ρ τ σ} {id : TaskId} {h h' : HolderId}
  {f f' : Fault} {x : σ} {get : Get} {line detail : String} {e : Event ρ σ}
  {es es₀ es₁ es₂ : List (Event ρ σ)}

/-! ### A read that fails -/

/-- In the course of events a read through a holder has failed for a request, which has given up
because of this. -/
def FailedThrough (s : System ρ τ σ) (es : List (Event ρ σ)) (id : TaskId) (h : HolderId)
    (f : Fault) : Prop :=
  ∃ u u', Occurs s es u (.advance id) u' ∧ u.GivesUp id h f

theorem failedThrough_snoc (hr : Run s₀ es s) (he : s.after? e = some s') :
    FailedThrough s₀ (es ++ [e]) id h f ↔
      FailedThrough s₀ es id h f ∨ e = .advance id ∧ s.GivesUp id h f := by
  constructor
  · rintro ⟨u, u', ho, hg⟩
    rcases (occurs_snoc hr he).1 ho with ho | ⟨rfl, rfl, -⟩
    · exact .inl ⟨u, u', ho, hg⟩
    · exact .inr ⟨rfl, hg⟩
  · rintro (⟨u, u', ho, hg⟩ | ⟨rfl, hg⟩)
    · exact ⟨u, u', (occurs_snoc hr he).2 (.inl ho), hg⟩
    · exact ⟨s, s', (occurs_snoc hr he).2 (.inr ⟨rfl, rfl, rfl⟩), hg⟩

theorem FailedThrough.append (hf : FailedThrough s es₁ id h f) :
    FailedThrough s (es₁ ++ es₂) id h f := by
  obtain ⟨u, u', ⟨es, es', rfl, hu, hu'⟩, hg⟩ := hf
  exact ⟨u, u', ⟨es, es' ++ es₂, by simp, hu, hu'⟩, hg⟩

/-- A request gives up because of one holder. -/
theorem GivesUp.unique (hg : s.GivesUp id h f) (hg' : s.GivesUp id h' f') : h' = h ∧ f' = f := by
  obtain ⟨t, next, ht, -, hgives⟩ := hg
  obtain ⟨t', next', ht', -, hgives'⟩ := hg'
  cases ht.symm.trans ht'
  generalize t.activity = act at hgives hgives'
  cases hgives
  cases hgives'
  exact ⟨rfl, rfl⟩

/-- A request that has given up does not do so again. -/
theorem not_givesUp_of_quits (hq : ∀ t, s.task? id = some t → t.activity.Quits h f) :
    ¬ s.GivesUp id h' f' := by
  rintro ⟨t, next, ht, -, hgives⟩
  have hquits := hq t ht
  generalize t.activity = act at hgives hquits
  cases hgives
  cases hquits

/-! ### Before and after -/

/-- A request for attributes that has not given up, and knows its holder. -/
structure Seeking (s₀ : System ρ τ σ) (es : List (Event ρ σ)) (s : System ρ τ σ) (id : TaskId)
    (get : Get) : Prop where
  /-- No read has failed so that the request has given up. -/
  unfailed : ∀ h f, ¬ FailedThrough s₀ es id h f
  /-- The request goes on with its queries. -/
  seeks : ∀ t, s.task? id = some t → t.activity.Seeks get ∧ t.activity.Aimed
  /-- Its holder has been made. -/
  sound : ∀ t, s.task? id = some t → t.activity.Sound s.gateway

/-- A request that has given up because of a holder. -/
structure Quitting (s₀ : System ρ τ σ) (es : List (Event ρ σ)) (s : System ρ τ σ) (id : TaskId)
    (h : HolderId) (f : Fault) : Prop where
  /-- A read through this holder has failed, and no other one that the request has given up for. -/
  failed : ∀ h' f', FailedThrough s₀ es id h' f' ↔ h' = h ∧ f' = f
  /-- The request closes the holder and tells of the fault. -/
  quits : ∀ t, s.task? id = some t → t.activity.Quits h f
  /-- The holder has been made. -/
  made : s.gateway.Made h
  /-- It is not cached, under whatever URL. -/
  uncached : s.gateway.Uncached h
  /-- It is being closed until it is done with, unless the request is dropped. -/
  closing : ClosingBy h s id ∨ Gone s id ∨ Done h s

/-- What is known of a request for attributes. -/
def Tracked (s₀ : System ρ τ σ) (es : List (Event ρ σ)) (s : System ρ τ σ) (id : TaskId)
    (get : Get) : Prop :=
  id < s.tasks.length ∧ (Seeking s₀ es s id get ∨ ∃ h f, Quitting s₀ es s id h f)

/-- **A request that gives up** takes the holder out of the cache and begins to close it. -/
theorem Seeking.quitting (hs : Seeking s₀ es s id get) (hr : Run s₀ es s) (hk : s.gateway.Keyed)
    (hg : s.GivesUp id h f) (he : s.after? (.advance id) = some s') :
    Quitting s₀ (es ++ [.advance id]) s' id h f := by
  have hunique : ∀ h' f', FailedThrough s₀ (es ++ [.advance id]) id h' f' ↔ h' = h ∧ f' = f := by
    intro h' f'
    rw [failedThrough_snoc hr he]
    constructor
    · rintro (hf | ⟨-, hg'⟩)
      · exact absurd hf (hs.unfailed h' f')
      · exact hg.unique hg'
    · rintro ⟨rfl, rfl⟩
      exact .inr ⟨rfl, hg⟩
  obtain ⟨t, next, ht, hnext, hgives⟩ := hg
  obtain ⟨t₁, t', ht₁, hstep, htasks⟩ := advance_cases he
  cases ht.symm.trans ht₁
  have ht' : s'.task? id = some t' := (task?_of_set ht htasks id).trans (if_pos rfl)
  -- The step is the one of the activity.
  obtain ⟨g₁, hact, hw⟩ : ∃ g₁, t.activity.step id s.gateway = some (g₁, t'.activity) ∧
      s'.gateway = { g₁ with workers := s'.gateway.workers } := by
    rcases Task.step_cases hstep with ⟨line, hq, -⟩ | hstep
    · rw [hq] at hnext
      cases hnext
    · exact hstep
  cases hnext.symm.trans hact
  have hquits : t'.activity.Quits h f := hgives.quits
  have hsound : t'.activity.Sound g₁ := (hs.sound t ht).step hk hact
  obtain ⟨a, ha, haccess⟩ : ∃ a, t'.activity.access? = some a ∧ a.holder = h ∧ a.aim = .close := by
    generalize t'.activity = act' at hgives
    generalize t.activity = act at hgives
    cases hgives
    exact ⟨_, rfl, rfl, rfl⟩
  have hgrows : g₁.Grows s'.gateway := by
    rw [hw]
    exact (g₁.evolves_workers _).grows
  obtain ⟨hmade, huncached⟩ := hsound.access ha
  rw [haccess.1] at hmade huncached
  refine ⟨hunique, fun t'' ht'' => ?_, hgrows.made hmade,
    (huncached haccess.2).grows hmade hgrows,
    .inl ⟨a, (access?_of_task? ht').trans ha, haccess⟩⟩
  cases ht'.symm.trans ht''
  exact hquits

/-- An event with which a request does not give up leaves it seeking. -/
theorem Seeking.after? (hs : Seeking s₀ es s id get) (hlen : id < s.tasks.length)
    (hr : Run s₀ es s) (hk : s.gateway.Keyed) (hline : Command.parse line = .ok (.get get))
    (he : s.after? e = some s') (hg : ∀ h f, e = .advance id → ¬ s.GivesUp id h f) :
    Seeking s₀ (es ++ [e]) s' id get := by
  have hstep (t' : Task τ σ) (ht' : s'.task? id = some t') :
      (t'.activity.Seeks get ∧ t'.activity.Aimed) ∧ t'.activity.Sound s'.gateway := by
    rcases task?_cases he ht' with hsame | ⟨t, rfl, ht, hstep⟩ | ⟨op, -, -, hid⟩
    · exact ⟨hs.seeks t' hsame, (hs.sound t' hsame).grows (grows_of_after? he)⟩
    · obtain ⟨hseeks, haimed⟩ := hs.seeks t ht
      rcases Task.step_cases hstep with ⟨line', hq, -⟩ | ⟨g₁, hact, hw⟩
      · rw [hq] at hseeks
        cases hseeks
      · rcases hseeks.step haimed hline hact with hseeks' | ⟨h, f, hgives⟩
        · refine ⟨⟨hseeks', haimed.step hact⟩, ?_⟩
          rw [hw]
          exact ((hs.sound t ht).step hk hact).grows (g₁.evolves_workers _).grows
        · exact absurd ⟨t, _, ht, hact, hgives⟩ (hg h f rfl)
    · exact absurd hid (Nat.ne_of_lt hlen)
  refine ⟨fun h f hf => ?_, fun t' ht' => (hstep t' ht').1, fun t' ht' => (hstep t' ht').2⟩
  rcases (failedThrough_snoc hr he).1 hf with hf | ⟨rfl, hgives⟩
  · exact hs.unfailed h f hf
  · exact hg h f rfl hgives

/-- Every event leaves a request that has given up on its way. -/
theorem Quitting.after? (hq : Quitting s₀ es s id h f) (hlen : id < s.tasks.length)
    (hr : Run s₀ es s) (hd : Disciplined s) (he : s.after? e = some s') :
    Quitting s₀ (es ++ [e]) s' id h f := by
  have hgrows := grows_of_after? he
  refine ⟨fun h' f' => ?_, fun t' ht' => ?_, hgrows.made hq.made,
    hq.uncached.grows hq.made hgrows, ?_⟩
  · rw [failedThrough_snoc hr he, hq.failed]
    exact or_iff_left fun hg => not_givesUp_of_quits hq.quits hg.2
  · rcases task?_cases he ht' with hsame | ⟨t, rfl, ht, hstep⟩ | ⟨op, -, -, hid⟩
    · exact hq.quits t' hsame
    · have hquits := hq.quits t ht
      rcases Task.step_cases hstep with ⟨line', hq', -⟩ | ⟨g₁, hact, -⟩
      · rw [hq'] at hquits
        cases hquits
      · exact hquits.step hact
    · exact absurd hid (Nat.ne_of_lt hlen)
  · rcases hq.closing with hc | hg | hdone
    · exact hc.after? hd he
    · exact .inr (.inl (hg.after? he))
    · exact .inr (.inr (hdone.after? hd he))

/-- **Every event** keeps what is known of a request. -/
theorem Tracked.after? (ht : Tracked s₀ es s id get) (hr : Run s₀ es s) (hd : Disciplined s)
    (hk : s.gateway.Keyed) (hline : Command.parse line = .ok (.get get))
    (he : s.after? e = some s') : Tracked s₀ (es ++ [e]) s' id get := by
  obtain ⟨hlen, hs⟩ := ht
  refine ⟨Nat.lt_of_lt_of_le hlen (length_tasks_le he), ?_⟩
  rcases hs with hs | ⟨h, f, hq⟩
  · by_cases hg : ∃ h f, e = .advance id ∧ s.GivesUp id h f
    · obtain ⟨h, f, rfl, hg⟩ := hg
      exact .inr ⟨h, f, hs.quitting hr hk hg he⟩
    · exact .inl (hs.after? hlen hr hk hline he fun h f hadv hgives => hg ⟨h, f, hadv, hgives⟩)
  · exact .inr ⟨h, f, hq.after? hlen hr hd he⟩

theorem tracked_of_run {remote : ρ} {workers : Permits} (hr₀ : Run (start remote workers) es₀ s₀)
    {t : Task τ σ} (ht : s₀.task? id = some t) (hline : t.activity = .beginning (.answer line))
    (hp : Command.parse line = .ok (.get get)) (hr : Run s₀ es s) : Tracked s₀ es s id get := by
  induction hr with
  | nil =>
    refine ⟨lt_of_task? ht, .inl ⟨?_, fun t' ht' => ?_, fun t' ht' => ?_⟩⟩
    · rintro h f ⟨u, u', ⟨es, es', hes, -⟩, -⟩
      cases es <;> cases hes
    · cases ht.symm.trans ht'
      rw [hline]
      exact ⟨.beginning hp, trivial⟩
    · cases ht.symm.trans ht'
      rw [hline]
      trivial
  | snoc hr he ih =>
    have hrun := hr₀.trans hr
    exact ih.after? hr (disciplined_of_run hrun) (keyed_of_run hrun) hp he

/-! ### What a request accesses -/

/-- A request reads what its queries need, and closes only a holder through which a read has
failed. -/
theorem Tracked.access (ht : Tracked s₀ es s id get) {a : Access τ σ}
    (ha : s.access? id = some a) :
    get.Admits a.aim ∨ a.aim = .close ∧ ∃ f, FailedThrough s₀ es id a.holder f := by
  obtain ⟨t, htask, hact⟩ := Option.bind_eq_some_iff.1 ha
  obtain ⟨-, hs | ⟨h, f, hq⟩⟩ := ht
  · obtain ⟨hseeks, -⟩ := hs.seeks t htask
    generalize t.activity = act at hact hseeks
    cases hseeks with
    | requesting _ _ hadmits =>
      cases hact
      exact .inl hadmits
    | _ => cases hact
  · have hquits := hq.quits t htask
    generalize t.activity = act at hact hquits
    cases hquits with
    | requesting hh haim =>
      cases hact
      exact .inr ⟨haim, f, (hq.failed _ _).2 ⟨hh, rfl⟩⟩
    | _ => cases hact

theorem Tracked.failedThrough (ht : Tracked s₀ es s id get) (hc : ClosingBy h s id) :
    ∃ f, FailedThrough s₀ es id h f := by
  obtain ⟨a, ha, rfl, haim⟩ := hc
  rcases ht.access ha with hadmits | ⟨-, hf⟩
  · rw [haim] at hadmits
    exact hadmits.elim
  · exact hf

/-- **A request reads only what its queries need**, whatever else happens: nothing is read for a
query whose path could not be read. -/
theorem needs_of_run {remote : ρ} {workers : Permits} (hr₀ : Run (start remote workers) es₀ s)
    (hline : Command.parse line = .ok (.get get)) (hr : Run (s.begin (.answer line)) es s')
    {a : Access τ σ} (ha : s'.access? s.tasks.length = some a) {bean attributeName : String}
    (haim : a.aim = .fetch bean attributeName) :
    ∃ q ∈ get.queries, q.Needs bean attributeName := by
  have hbegun : (s.begin (.answer line)).task? s.tasks.length =
      some (.ofOperation (.answer line)) := (task?_begin s _ _).trans (if_pos rfl)
  have hbegin : s.after? (.begin (.answer line)) = some (s.begin (.answer line)) := rfl
  rcases (tracked_of_run (hr₀.snoc hbegin) hbegun rfl hline hr).access ha with hadmits | ⟨hclose, -⟩
  · rw [haim] at hadmits
    exact hadmits
  · cases haim.symm.trans hclose

/-! ### Other holders -/

/-- Holders other than one are none the worse for a step of a task: they stay cached, do not change
but for being connected, and their sessions are not closed. -/
structure SparesOthers (h : HolderId) (s : System ρ τ σ) (id : TaskId) (s' : System ρ τ σ) :
    Prop where
  /-- They stay cached. -/
  cached : ∀ {url h'}, h' ≠ h → s.gateway.cached? url = some h' → s'.gateway.cached? url = some h'
  /-- They are not closed. -/
  link : ∀ {h'}, h' ≠ h → s'.gateway.link h' = s.gateway.link h' ∨
    s.gateway.link h' = .disconnected ∧ ∃ x, s'.gateway.link h' = .connected x
  /-- Their sessions are not closed. -/
  session : ∀ {h' x}, h' ≠ h → ¬ EndingBy h' x s id

/-- A step of a task that closes no holder but one spares the others. -/
theorem sparesOthers_of_after? (hd : Disciplined s) (he : s.after? (.advance id) = some s')
    (hc : ∀ h', ClosingBy h' s id → h' = h) (hc' : ∀ h', ClosingBy h' s' id → h' = h) :
    SparesOthers h s id s' := by
  refine ⟨fun {url h'} hne hu => ?_, fun {h'} hne => ?_, fun {h' x} hne hending => ?_⟩
  · rcases (minds_of_after? he nofun).1 hu with hu | ⟨id', hid, hclosing⟩
    · exact hu
    · cases hid
      exact absurd (hc' h' hclosing) hne
  · have hmoves := ((hd.progress (change_of_after? he) h').moves).1
    by_cases hk : s.gateway.link h' = .closed
    · exact .inl ((hd.closed_after? he hk).trans hk.symm)
    · have hk' : s'.gateway.link h' ≠ .closed := by
        intro hk'
        obtain ⟨id', a, hid, ha, hh, haim, -⟩ := closer he hk hk'
        cases hid
        exact hne (hc h' ⟨a, ha, hh, haim⟩)
      generalize s.gateway.link h' = k at hmoves
      generalize s'.gateway.link h' = k' at hmoves hk'
      cases hmoves with
      | stay => exact .inl rfl
      | connect x => exact .inr ⟨rfl, x, rfl⟩
      | close | shut => exact absurd rfl hk'
  · exact hne (hc h' (hending.closingBy hd))

/-! ### Sessions -/

/-- In the course of events the session of a holder has been closed, by a task that was closing the
holder. -/
def HasEnded (s : System ρ τ σ) (es : List (Event ρ σ)) (h : HolderId) (x : σ) : Prop :=
  ∃ u u' j, Occurs s es u (.advance j) u' ∧ EndingBy h x u j ∧
    u'.gateway.remote = (Remote.close x u.gateway.remote).2

/-- In the course of events a task has been dropped that was about to close the session of a
holder. -/
def HasDropped (s : System ρ τ σ) (es : List (Event ρ σ)) (h : HolderId) (x : σ) : Prop :=
  ∃ u u' j, Occurs s es u (.abandon j) u' ∧ EndingBy h x u j

/-- A session that a holder has had is held still, or has been closed, unless the task that was
about to close it has been dropped. -/
theorem held_of_run {remote : ρ} {workers : Permits} (hr : Run (start remote workers) es s)
    (hv : Visits (start remote workers) es u) (hk : u.gateway.link h = .connected x) :
    Held h x s ∨ HasEnded (start remote workers) es h x ∨
      HasDropped (start remote workers) es h x := by
  induction hr with
  | nil =>
    obtain ⟨es₁, es₂, hes, hu⟩ := hv
    obtain ⟨rfl, -⟩ := List.append_eq_nil_iff.1 hes.symm
    cases hu.unique (.nil _)
    exact .inl (.inl hk)
  | @snoc s s' es e hr he ih =>
    have hlater {u₁ u₂ : System ρ τ σ} {e' : Event ρ σ}
        (ho : Occurs (start remote workers) es u₁ e' u₂) :
        Occurs (start remote workers) (es ++ [e]) u₁ e' u₂ := (occurs_snoc hr he).2 (.inl ho)
    have hnow : Occurs (start remote workers) (es ++ [e]) s e s' :=
      (occurs_snoc hr he).2 (.inr ⟨rfl, rfl, rfl⟩)
    rcases (visits_snoc hr he).1 hv with hv | rfl
    · rcases ih hv with hheld | ⟨u₁, u₂, j, ho, hended⟩ | ⟨u₁, u₂, j, ho, hdropped⟩
      · rcases held_after? (disciplined_of_run hr) he hheld with hheld | ⟨j, hj, rfl | rfl⟩
        · exact .inl hheld
        · exact .inr (.inl ⟨s, s', j, hnow, hj, hj.closes he⟩)
        · exact .inr (.inr ⟨s, s', j, hnow, hj⟩)
      · exact .inr (.inl ⟨u₁, u₂, j, hlater ho, hended⟩)
      · exact .inr (.inr ⟨u₁, u₂, j, hlater ho, hdropped⟩)
    · exact .inl (.inl hk)

/-- **A request that answers that a channel has failed has closed the holder, and no other one**,
however other tasks and whatever the remote side does come between its steps. There is one holder
through which a read has failed so that the request has given up, and it is told of this fault. When
it is told, this holder is closed, and not cached under any URL; every session that the holder has
ever had has been closed, unless a task was dropped that was about to do so. No step of the request
has taken another holder out of the cache, closed it, or closed a session that it had; so one that
has been cached meanwhile under the same URL stays cached and connected. And the request is in
nobody's way any more: it neither has nor wants a lock. -/
theorem failed_holder_closed {remote : ρ} {workers : Permits}
    (hr₀ : Run (start remote workers) es₀ s₀) {t : Task τ σ} (ht : s₀.task? id = some t)
    (hline : t.activity = .beginning (.answer line)) (hp : Command.parse line = .ok (.get get))
    (hr : Run s₀ es s) (hres : s.result? id = some (.answered (.err .channelError detail))) :
    ∃ h f, (∀ h' f', FailedThrough s₀ es id h' f' ↔ h' = h ∧ f' = f) ∧ f.detail = detail ∧
      s.gateway.link h = .closed ∧ s.gateway.Uncached h ∧
      (∀ u x, Visits (start remote workers) (es₀ ++ es) u → u.gateway.link h = .connected x →
        HasEnded (start remote workers) (es₀ ++ es) h x ∨
          HasDropped (start remote workers) (es₀ ++ es) h x) ∧
      (∀ u u', Occurs s₀ es u (.advance id) u' → SparesOthers h u id u') ∧
      ∀ h' m, (id, m) ∉ (s.gateway.lock h').entries := by
  have hrun := hr₀.trans hr
  obtain ⟨t', ht', hact⟩ := Option.bind_eq_some_iff.1 hres
  have hnone : s.access? id = none := by
    rw [access?_of_task? ht']
    cases hact' : t'.activity <;> rw [hact'] at hact <;> first | rfl | cases hact
  obtain ⟨-, hs | ⟨h, f, hq⟩⟩ := tracked_of_run hr₀ ht hline hp hr
  · -- As long as it has not given up, a request is not told that a channel has failed.
    obtain ⟨hseeks, -⟩ := hs.seeks t' ht'
    generalize t'.activity = act at hact hseeks
    cases hseeks with
    | answered hno =>
      cases hact
      exact absurd rfl (hno detail)
    | _ => cases hact
  have hdetail : f.detail = detail := by
    have hquits := hq.quits t' ht'
    generalize t'.activity = act at hact hquits
    cases hquits <;> cases hact
    rfl
  have hdone : Done h s := by
    rcases hq.closing with ⟨a, ha, -⟩ | hgone | hdone
    · rw [hnone] at ha
      cases ha
    · rw [hgone.1] at ht'
      cases ht'
    · exact hdone
  -- What the request closes on its way is this holder.
  have hcloses {es₁ es₂ : List (Event ρ σ)} {v : System ρ τ σ} (hes : es = es₁ ++ es₂)
      (hv : Run s₀ es₁ v) (h' : HolderId) (hc : ClosingBy h' v id) : h' = h := by
    obtain ⟨f', hf⟩ := (tracked_of_run hr₀ ht hline hp hv).failedThrough hc
    subst hes
    exact ((hq.failed h' f').1 hf.append).1
  refine ⟨h, f, hq.failed, hdetail, hdone.1, hq.uncached, fun u x hv hk => ?_, fun u u' ho => ?_,
    fun h' m hmem => ?_⟩
  · rcases held_of_run hrun hv hk with (hk' | ⟨j, hj⟩) | hended
    · rw [hdone.1] at hk'
      cases hk'
    · exact absurd hj (hdone.2 j x)
    · exact hended
  · obtain ⟨es₁, es₂, hes, hu, he⟩ := ho
    have hes' : es = (es₁ ++ [.advance id]) ++ es₂ := by
      rw [hes, List.append_assoc, List.singleton_append]
    exact sparesOthers_of_after? (disciplined_of_run (hr₀.trans hu)) he (hcloses hes hu)
      (hcloses hes' (hu.snoc he))
  · obtain ⟨a, ha, -⟩ := (disciplined_of_run hrun).entry hmem
    rw [hnone] at ha
    cases ha

/-- A request for an attribute whose channel fails. -/
def askedBroken : List (Event Registry Nat) :=
  [.alter fun r => (r.register "u").modify "u" (·.injectFault "b" "broken" (.channel "lost")),
    .begin (.answer "GET u %s b broken")]

/-- The read fails. Its holder is taken out of the cache and closed, another one is cached under its
URL and connected; then the request gives up. -/
def overtaken : List (Event Registry Nat) :=
  List.replicate 12 (.advance 0) ++ .begin (.evict "u") :: List.replicate 5 (.advance 1) ++
    .acquire "u" :: .begin (.access 1 .connect) :: List.replicate 7 (.advance 2) ++
    List.replicate 3 (.advance 0)

/-- The task of the request when it has closed its holder. -/
def hasClosed : Task Registry.Found Nat :=
  { activity := .returning (.givingUp (.remoteChannel "lost")) 0 .closed }

/-- The request is told that the channel has failed; the new holder stays cached and connected. -/
theorem failed_holder_closed_overtaken :
    ∃ s h f, Run (inMemory.behind askedBroken) (overtaken ++ [.advance 0]) s ∧
      s.result? 0 = some (.answered (.err .channelError "lost")) ∧
      FailedThrough (inMemory.behind askedBroken) (overtaken ++ [.advance 0]) 0 h f ∧
      s.gateway.link h = .closed ∧ s.gateway.Uncached h ∧
      s.gateway.cached? "u" = some 1 ∧ s.gateway.link 1 = .connected 1 := by
  have hr₀ : Run inMemory askedBroken (inMemory.behind askedBroken) :=
    run_behind (by decide +kernel)
  have hr₁ : Run (inMemory.behind askedBroken) overtaken
      ((inMemory.behind askedBroken).behind overtaken) := run_behind (by decide +kernel)
  have hbegun : (inMemory.behind askedBroken).task? 0 =
      some (.ofOperation (.answer "GET u %s b broken")) := by with_unfolding_all rfl
  have hparse : Command.parse "GET u %s b broken" =
      .ok (.get ⟨"u", .ofToken "%s", [.ofTexts "b" "broken"]⟩) := by with_unfolding_all rfl
  have hclosing : ((inMemory.behind askedBroken).behind overtaken).task? 0 = some hasClosed := by
    with_unfolding_all rfl
  have hcached : ((inMemory.behind askedBroken).behind overtaken).gateway.cached? "u" = some 1 := by
    decide +kernel
  have hlink : ((inMemory.behind askedBroken).behind overtaken).gateway.link 1 = .connected 1 := by
    decide +kernel
  obtain ⟨s, hs, hres, hholders, -⟩ := answers_of_resume hclosing rfl rfl
  have hr := hr₁.snoc hs
  obtain ⟨h, f, hfailed, -, hclosed, huncached, -, hspares, -⟩ :=
    failed_holder_closed hr₀ hbegun rfl hparse hr hres
  have hlink' : s.gateway.link 1 = .connected 1 := by
    rw [← hlink, Gateway.link, Gateway.link, Gateway.holder, Gateway.holder, hholders]
  have hne : 1 ≠ h := by
    rintro rfl
    rw [hlink'] at hclosed
    cases hclosed
  have hlast := hspares _ s ⟨overtaken, [], rfl, hr₁, hs⟩
  exact ⟨s, h, f, hr, hres, (hfailed h f).2 ⟨rfl, rfl⟩, hclosed, huncached,
    hlast.cached hne hcached, hlink'⟩

end System

end AttributeGateway
