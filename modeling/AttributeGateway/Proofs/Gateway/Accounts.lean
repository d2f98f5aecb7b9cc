import AttributeGateway.Proofs.Gateway.Answers
import AttributeGateway.Proofs.Gateway.Bookkeeping
import AttributeGateway.Proofs.Gateway.Progress
import AttributeGateway.Proofs.Gateway.Retrying
import Mathlib.Data.Set.Card

/-!
# The counters balance

What a gateway has counted agrees with what has happened to its tasks. Lines are counted with the
step that takes them up, and durations, failures and successes with the step that ends a request or
an attempt; in between the difference is in the tasks that are under way. A task that is dropped
there takes its difference with it.

* `System.underWay`, `System.dropped` — how many tasks stand at some activity, and how many have
  been dropped there in the course of events.
* `System.ioErrors`, `System.everConnected` — the requests to read attributes that have been
  answered by an I/O error, and the holders that have been connected.
* `System.Booked` — the invariant, kept by every event (`Booked.snoc`).
* `System.counters_balance` — in every run the counters agree with each other, and with what has
  happened once no task is under way.
-/

namespace AttributeGateway

variable {ρ τ σ : Type}

/-! ### How requests end -/

theorem not_refusal_ioError {words : List String} {detail : String} :
    ¬ Refusal words (.err .channelError detail) := by
  intro h
  cases h

namespace Activity

variable [Remote ρ τ σ] {g g' : Gateway ρ σ} {id : TaskId} {act act' : Activity τ σ}
  {next : Gateway ρ σ × Activity τ σ}

omit [Remote ρ τ σ] in
theorem result?_of_isAsking (h : act.isAsking) : act.result? = none := by
  cases act <;> first | rfl | cases h

omit [Remote ρ τ σ] in
theorem result?_of_isFailing (h : act.isFailing) : act.result? = none := by
  cases act <;> first | rfl | cases h

omit [Remote ρ τ σ] in
theorem result?_of_isOpening (h : act.isOpening) : act.result? = none := by
  cases act <;> first | rfl | cases h

/-- A request is being answered, to read attributes. -/
def isReading : Activity τ σ → Bool
  | .requesting .dropping _ | .returning .dropping _ _ => false
  | .requesting _ _ | .returning _ _ _ => true
  | _ => false

omit [Remote ρ τ σ] in
theorem isReading_of_isFailing (h : act.isFailing) : act.isReading := by
  cases act with
  | requesting p | returning p => cases p <;> first | rfl | cases h
  | _ => cases h

/-- Only a line that asks for attributes is answered by reading some. -/
theorem isReading_cases (h : act.step id g = some (g', act')) (hr : act'.isReading) :
    act.isReading ∨ ∃ line get, act = .beginning (.answer line) ∧
      Command.parse line = .ok (.get get) := by
  cases ha : act.access? with
  | some a =>
    obtain ⟨n, -, rfl⟩ := step_access ha h
    cases act with
    | requesting p b =>
      refine .inl ?_
      cases p <;> cases n <;> first | rfl | cases hr
    | accessing b | clearing b urls => cases n <;> cases hr
    | _ => cases ha
  | none =>
    have hq := quiet_of_step ha h
    generalize hnext : (g', act') = next at hq
    have hnr : next.2.isReading := by rwa [← hnext]
    cases hq with
    | get hp => exact .inr ⟨_, _, rfl, hp⟩
    | resume hr =>
      refine .inl ?_
      cases hr with
      | dropped => cases hnr
      | _ => rfl
    | search hact => obtain ⟨found, rfl⟩ | ⟨error, rfl⟩ := hact <;> cases hnr
    | _ => cases hnr

/-- A request that is given up is answered by an I/O error. -/
theorem failing_step (hf : act.isFailing) (h : act.step id g = some (g', act')) :
    act'.isFailing ∨ ∃ detail, act' = .finished (.answered (.err .channelError detail)) := by
  cases act with
  | requesting p b =>
    obtain ⟨n, -, rfl⟩ := step_access rfl h
    cases p with
    | givingUp f => cases n <;> exact .inl rfl
    | connecting | fetching | dropping => cases hf
  | returning p h₀ o =>
    cases p with
    | givingUp f =>
      cases h
      exact .inr ⟨_, rfl⟩
    | connecting | fetching | dropping => cases hf
  | _ => cases hf

/-- **Only a request that is given up is answered by an I/O error.** -/
theorem isFailing_of_answered {detail : String} (ha : act.Aimed)
    (h : act.step id g = some (g', .finished (.answered (.err .channelError detail)))) :
    act.isFailing := by
  cases haccess : act.access? with
  | some a =>
    obtain ⟨n, -, hact⟩ := step_access haccess h
    cases act with
    | requesting | accessing | clearing => cases n <;> cases hact
    | _ => cases haccess
  | none =>
    have hq := quiet_of_step haccess h
    generalize hnext : (g', Activity.finished (.answered (.err .channelError detail))) = next at hq
    have hres : next.2 = .finished (.answered (.err .channelError detail)) := by rw [← hnext]
    have hturn {h₀ : HolderId} {r : Reading} {inside : Bool} {failed : Fault → Prop}
        (ht : Turn h₀ r inside failed g next) : False := by
      cases ht with
      | done | fetch | giveUp => cases hres
    cases hq with
    | misread hp =>
      -- A line that is no request is refused under another code.
      have hrefusal := Command.refusal_of_ofWords hp
      rw [Result.answered.inj (finished.inj hres)] at hrefusal
      exact absurd hrefusal not_refusal_ioError
    | resume hr =>
      cases hr with
      | refuse =>
        have hcode := (Response.err.inj (Result.answered.inj (finished.inj hres))).1
        cases ha.symm.trans hcode
      | gaveUp => rfl
      | dropped | reconnect | refresh => cases hres
      | goOn _ ht | settle _ ht => exact (hturn ht).elim
    | search hact => obtain ⟨found, rfl⟩ | ⟨error, rfl⟩ := hact <;> cases hres
    | read hr => obtain ⟨v, rfl⟩ | ⟨error, rfl⟩ := hr <;> cases hres
    | ended hr => obtain rfl | ⟨error, rfl⟩ := hr <;> cases hres
    | _ => cases hres

end Activity

/-! ### Tasks -/

/-- What a step of a task does to the counters; permits are not counted. -/
theorem Task.posts_of_step [Remote ρ τ σ] {g g' : Gateway ρ σ} {id : TaskId} {t t' : Task τ σ}
    (h : t.step id g = some (g', t')) :
    g.Posts g' (t'.activity.isAsking.toNat - t.activity.isAsking.toNat)
      (if t.activity.isFailing then 0 else t'.activity.isFailing.toNat)
      (t'.activity.isOpening.toNat - t.activity.isOpening.toNat +
        (t.activity.opens g.remote).toNat) := by
  rcases step_cases h with ⟨line, hline, hg, hact⟩ | ⟨g₁, hact, hg⟩
  · rw [hg, hline]
    rcases hact with hact | hact <;> rw [hact] <;> exact Gateway.posts_of_eq rfl rfl rfl rfl
  · have hsame : g₁.Posts g' 0 0 0 := by
      rw [hg]
      exact Gateway.posts_of_eq rfl rfl rfl rfl
    simpa only [Int.add_zero] using (Activity.posts_of_step hact).trans hsame

namespace System

variable [Remote ρ τ σ] {s s' s'' u s₀ : System ρ τ σ} {e : Event ρ σ} {es : List (Event ρ σ)}
  {id : TaskId} {p : Activity τ σ → Bool}

/-- How many tasks stand at such an activity. -/
def underWay (p : Activity τ σ → Bool) (s : System ρ τ σ) : Nat :=
  s.tasks.countP fun o => o.any fun t => p t.activity

/-- How many tasks are dropped by an event while they stand at such an activity. -/
def drops (p : Activity τ σ → Bool) (s : System ρ τ σ) : Event ρ σ → Nat
  | .abandon id => ((s.task? id).any fun t => p t.activity).toNat
  | _ => 0

/-- How many tasks have been dropped in the course of events while they stood at such an
activity. -/
def dropped (p : Activity τ σ → Bool) : System ρ τ σ → List (Event ρ σ) → Nat
  | _, [] => 0
  | s, e :: es => drops p s e + (s.after? e).elim 0 fun s' => dropped p s' es

theorem dropped_snoc (hr : Run s es s') (he : s'.after? e = some s'') :
    dropped p s (es ++ [e]) = dropped p s es + drops p s' e := by
  induction es generalizing s with
  | nil =>
    obtain rfl := run_nil.1 hr
    simp [dropped, he]
  | cons e₁ es ih =>
    obtain ⟨s₁, hs₁, hr⟩ := run_cons.1 hr
    simp only [List.cons_append, dropped, hs₁, Option.elim_some, ih hr, Nat.add_assoc]

/-- If no task is dropped, none is dropped at any activity. -/
theorem dropped_eq_zero (h : ∀ id, .abandon id ∉ es) (s : System ρ τ σ) : dropped p s es = 0 := by
  induction es generalizing s with
  | nil => rfl
  | cons e es ih =>
    have hrest : ∀ s' : System ρ τ σ, dropped p s' es = 0 :=
      ih fun id hid => h id (List.mem_cons_of_mem _ hid)
    have hfirst : drops p s e = 0 := by
      cases e with
      | abandon id => exact absurd List.mem_cons_self (h id)
      | _ => rfl
    rw [dropped, hfirst]
    cases s.after? e with
    | none => rfl
    | some s' => rw [Option.elim_some, hrest]

omit [Remote ρ τ σ] in
/-- Only the task that is replaced makes a difference. -/
theorem underWay_set {t : Task τ σ} {o : Option (Task τ σ)} (ht : s.task? id = some t)
    (hs : s'.tasks = s.tasks.set id o) :
    underWay p s' + (p t.activity).toNat =
      underWay p s + (o.any fun t => p t.activity).toNat := by
  have hlt := lt_of_task? ht
  have hget : s.tasks[id] = some t := by
    rw [task?, List.getElem?_eq_getElem hlt] at ht
    exact ht
  have hpos : p t.activity = true → 0 < underWay p s := by
    intro hp
    exact List.countP_pos_iff.2 ⟨some t, hget ▸ List.getElem_mem hlt, hp⟩
  rw [underWay, hs, List.countP_set hlt, hget, ← underWay]
  cases hp : p t.activity with
  | false => cases o.any fun t => p t.activity <;> simp [hp]
  | true =>
    have := hpos hp
    cases o.any fun t => p t.activity <;> simp [hp] <;> omega

omit [Remote ρ τ σ] in
/-- If no task is under way, none stands at an activity before its end. -/
theorem underWay_eq_zero (hs : ∀ id, ¬ s.Unfinished id)
    (hp : ∀ act, p act = true → act.result? = none) : underWay p s = 0 := by
  refine List.countP_eq_zero.2 fun o ho hany => ?_
  obtain ⟨t, rfl, hpt⟩ := Option.any_eq_true _ _ |>.1 hany
  obtain ⟨id, hid⟩ := List.getElem?_of_mem ho
  exact hs id ⟨t, by rw [task?, hid]; rfl, hp _ hpt⟩

/-! ### Answers and holders -/

/-- A task has taken up a line that asks for attributes. -/
def AskedGet (s : System ρ τ σ) (es : List (Event ρ σ)) (id : TaskId) : Prop :=
  ∃ line get, Asked s es id line ∧ Command.parse line = .ok (.get get)

/-- The requests to read attributes that have been answered by an I/O error. -/
def ioErrors (s : System ρ τ σ) (es : List (Event ρ σ)) : Set TaskId :=
  {id | AskedGet s es id ∧
    ∃ u detail, Visits s es u ∧ u.result? id = some (.answered (.err .channelError detail))}

/-- The holders that have been connected. -/
def everConnected (s : System ρ τ σ) (es : List (Event ρ σ)) : Set HolderId :=
  {h | ∃ u x, Visits s es u ∧ u.gateway.link h = .connected x}

theorem asked_snoc {line : String} (hr : Run s es s') (he : s'.after? e = some s'') :
    Asked s (es ++ [e]) id line ↔ Asked s es id line ∨ s''.TakesUp id line := by
  simp only [Asked, visits_snoc hr he, or_and_right, exists_or, exists_eq_left]

theorem AskedGet.snoc (h : AskedGet s es id) (hr : Run s es s') (he : s'.after? e = some s'') :
    AskedGet s (es ++ [e]) id := by
  obtain ⟨line, get, ha, hp⟩ := h
  exact ⟨line, get, (asked_snoc hr he).2 (.inl ha), hp⟩

/-- A task that has come to its result keeps it, unless it is dropped. -/
theorem Visits.finished {r : Result σ} (hv : Visits s es u) (hr : Run s es s')
    (hres : u.result? id = some r) {t : Task τ σ} (ht : s'.task? id = some t) :
    t.activity = .finished r := by
  obtain ⟨t₀, ht₀, hres⟩ := Option.bind_eq_some_iff.1 hres
  have hstart : ∀ t, u.task? id = some t → t.activity = .finished r := by
    intro t ht
    cases ht₀.symm.trans ht
    cases hact : t₀.activity with
    | finished r' =>
      rw [hact] at hres
      cases hres
      rfl
    | _ =>
      rw [hact] at hres
      cases hres
  obtain ⟨es₁, es₂, -, hu⟩ := (hr.runWhere (P := fun _ _ => True) fun _ _ _ => trivial).visits hv
  refine (hu.run.preserves (I := fun v => id < v.tasks.length ∧
    ∀ t, v.task? id = some t → t.activity = .finished r) (fun {v e v'} hv he => ?_)
    ⟨lt_of_task? ht₀, hstart⟩).2 t ht
  refine ⟨Nat.lt_of_lt_of_le hv.1 (length_tasks_le he), fun t' ht' => ?_⟩
  rcases task?_cases he ht' with ht | ⟨t, -, ht, hstep⟩ | ⟨op, -, -, hid⟩
  · exact hv.2 t' ht
  · have hact := hv.2 t ht
    rcases Task.step_cases hstep with ⟨line, hline, -⟩ | ⟨g₁, hstep, -⟩
    · rw [hact] at hline
      cases hline
    · rw [hact] at hstep
      cases hstep
  · exact absurd hid (Nat.ne_of_lt hv.1)

/-- What is known of the tasks behind the events of a run: they access holders for what they say,
and what they read has been asked for. -/
structure Known (s₀ : System ρ τ σ) (es : List (Event ρ σ)) (s : System ρ τ σ) : Prop where
  aimed : ∀ {id t}, s.task? id = some t → t.activity.Aimed
  asked : ∀ {id t}, s.task? id = some t → t.activity.isReading → AskedGet s₀ es id

theorem Known.snoc (hk : Known s₀ es s) (hr : Run s₀ es s) (he : s.after? e = some s') :
    Known s₀ (es ++ [e]) s' where
  aimed {id t'} ht' := by
    rcases task?_cases he ht' with ht | ⟨t, -, ht, hstep⟩ | ⟨op, -, rfl, -⟩
    · exact hk.aimed ht
    · rcases Task.step_cases hstep with ⟨line, -, -, hact | hact⟩ | ⟨g₁, hact, -⟩
      · rw [hact]
        trivial
      · rw [hact]
        trivial
      · exact (hk.aimed ht).step hact
    · trivial
  asked {id t'} ht' hread := by
    rcases task?_cases he ht' with ht | ⟨t, -, ht, hstep⟩ | ⟨op, -, rfl, -⟩
    · exact (hk.asked ht hread).snoc hr he
    · rcases Task.step_cases hstep with ⟨line, -, -, hact | hact⟩ | ⟨g₁, hact, -⟩
      · rw [hact] at hread
        cases hread
      · rw [hact] at hread
        cases hread
      · rcases Activity.isReading_cases hact hread with hread | ⟨line, get, hline, hp⟩
        · exact (hk.asked ht hread).snoc hr he
        · have hasked : Asked s₀ es id line :=
            ⟨s, ⟨es, [], (List.append_nil es).symm, hr⟩, t, ht, hline⟩
          exact ⟨line, get, (asked_snoc hr he).2 (.inl hasked), hp⟩
    · cases hread

/-- The task stands behind the end of a request that was given up. -/
def GivenUp (s : System ρ τ σ) (e : Event ρ σ) (s' : System ρ τ σ) (id : TaskId) : Prop :=
  e = .advance id ∧ ∃ t t', s.task? id = some t ∧ s'.task? id = some t' ∧
    t.activity.isFailing = true ∧ t'.activity.isFailing = false

/-- A request to read attributes is answered by an I/O error with the step that ends giving it up,
and at no other time. -/
theorem Known.mem_ioErrors_snoc (hk : Known s₀ es s) (hr : Run s₀ es s)
    (he : s.after? e = some s') :
    id ∈ ioErrors s₀ (es ++ [e]) ↔ id ∈ ioErrors s₀ es ∨ GivenUp s e s' id := by
  constructor
  · rintro ⟨⟨line, get, ha, hp⟩, u, detail, hv, hres⟩
    rcases (visits_snoc hr he).1 hv with hv | rfl
    · rcases (asked_snoc hr he).1 ha with ha | ⟨t, ht, hact⟩
      · exact .inl ⟨⟨line, get, ha, hp⟩, u, detail, hv, hres⟩
      · -- A task that has come to its result takes up no line.
        have hv' : Visits s₀ (es ++ [e]) u := (visits_snoc hr he).2 (.inl hv)
        rw [hv'.finished (hr.snoc he) hres ht] at hact
        cases hact
    · obtain ⟨t', ht', hres'⟩ := Option.bind_eq_some_iff.1 hres
      have hfinished : t'.activity = .finished (.answered (.err .channelError detail)) :=
        Visits.finished ⟨_, [], (List.append_nil _).symm, hr.snoc he⟩ (hr.snoc he) hres ht'
      rcases (asked_snoc hr he).1 ha with ha | ⟨t, ht, hact⟩
      · rcases task?_cases he ht' with ht | ⟨t, hadv, ht, hstep⟩ | ⟨op, -, rfl, -⟩
        · refine .inl ⟨⟨line, get, ha, hp⟩, s, detail, ⟨es, [], (List.append_nil es).symm, hr⟩, ?_⟩
          rw [result?, ht]
          exact hres'
        · have hanswering := ha.answering hr ht
          rcases Task.step_cases hstep with ⟨line', hline, -⟩ | ⟨g₁, hact, -⟩
          · rw [hline] at hanswering
            cases hanswering
          · rw [hfinished] at hact
            exact .inr ⟨hadv, t, t', ht, ht', Activity.isFailing_of_answered (hk.aimed ht) hact,
              by rw [hfinished]; rfl⟩
        · cases hres'
      · cases ht.symm.trans ht'
        rw [hfinished] at hact
        cases hact
  · rintro (⟨ha, u, detail, hv, hres⟩ | ⟨rfl, t, t', ht, ht', hf, hf'⟩)
    · exact ⟨ha.snoc hr he, u, detail, (visits_snoc hr he).2 (.inl hv), hres⟩
    · refine ⟨(hk.asked ht (Activity.isReading_of_isFailing hf)).snoc hr he, s', ?_⟩
      obtain ⟨t₁, t₂, ht₁, hstep, htasks⟩ := advance_cases he
      cases ht.symm.trans ht₁
      rw [task?_of_set ht htasks, if_pos rfl] at ht'
      cases ht'
      rcases Task.step_cases hstep with ⟨line, hline, -⟩ | ⟨g₁, hact, -⟩
      · rw [hline] at hf
        cases hf
      · rcases Activity.failing_step hf hact with hf'' | ⟨detail, hend⟩
        · rw [hf'] at hf''
          cases hf''
        · refine ⟨detail, (visits_snoc hr he).2 (.inr rfl), ?_⟩
          rw [result?, task?_of_set ht htasks, if_pos rfl, Option.bind_some, hend]
          rfl

/-! ### Holders -/

/-- An event that gives a holder its session is the step of a task that opens one for it. -/
theorem calls_succeeded_eq_one {h : HolderId} (hc : (calls h s e s').succeeded = 1) :
    ∃ id a, e = .advance id ∧ s.access? id = some a ∧ a.holder = h ∧
      a.opens s.gateway.remote = true := by
  cases e with
  | advance id =>
    rw [calls] at hc
    split at hc
    · next a ha =>
      split at hc
      · next hh => exact ⟨id, a, rfl, ha, hh, by simpa using hc⟩
      · cases hc
    · cases hc
  | abandon id =>
    rw [calls] at hc
    split at hc
    · split at hc <;> cases hc
    · cases hc
  | _ => cases hc

/-- A holder that is connected behind an event was so before, or a session has just been opened for
it. -/
theorem Progress.connected {h : HolderId} {x : σ} (hp : Progress h s e s')
    (hk : s'.gateway.link h = .connected x) :
    s.gateway.link h = .connected x ∨ (calls h s e s').succeeded = 1 := by
  cases hp with
  | idle _ _ hl =>
    rcases hl with hl | hl
    · exact .inl (hl.symm.trans hk)
    · cases hl.symm.trans hk
  | begins _ _ _ _ hl' => cases hl'.symm.trans hk
  | ends _ _ _ _ hl => exact .inl (hl.symm.trans hk)
  | succeeds x hc => exact .inr (by rw [hc])

/-- When a session has been opened for a holder, it is connected for the first time. -/
theorem Progress.succeeded {h : HolderId} (hp : Progress h s e s')
    (hc : (calls h s e s').succeeded = 1) :
    s.gateway.link h = .disconnected ∧ ∃ x, s'.gateway.link h = .connected x := by
  cases hp with
  | succeeds x _ hl hl' => exact ⟨hl, x, hl'⟩
  | idle hcalls | begins _ hcalls | ends _ _ hcalls =>
    rw [hcalls] at hc
    cases hc

/-- A holder that has been connected is not disconnected any more. -/
theorem link_of_everConnected {remote : ρ} {workers : Permits} {h : HolderId}
    (hr : Run (start remote workers) es s) (hh : h ∈ everConnected (start remote workers) es) :
    s.gateway.link h ≠ .disconnected := by
  obtain ⟨u, x, hv, hk⟩ := hh
  obtain ⟨es₁, es₂, hu, hu'⟩ :=
    (hr.runWhere (P := fun _ _ => True) fun _ _ _ => trivial).visits hv
  refine ((disciplined_of_run hu.run).no_calls ?_ hu'.run).2
  rw [hk]
  exact nofun

theorem mem_everConnected_snoc {remote : ρ} {workers : Permits} {h : HolderId}
    (hr : Run (start remote workers) es s) (he : s.after? e = some s') :
    h ∈ everConnected (start remote workers) (es ++ [e]) ↔
      h ∈ everConnected (start remote workers) es ∨ (calls h s e s').succeeded = 1 := by
  have hp := (disciplined_of_run hr).progress (change_of_after? he) h
  constructor
  · rintro ⟨u, x, hv, hk⟩
    rcases (visits_snoc hr he).1 hv with hv | rfl
    · exact .inl ⟨u, x, hv, hk⟩
    · exact (hp.connected hk).imp_left fun hk =>
        ⟨s, x, ⟨es, [], (List.append_nil es).symm, hr⟩, hk⟩
  · rintro (⟨u, x, hv, hk⟩ | hc)
    · exact ⟨u, x, (visits_snoc hr he).2 (.inl hv), hk⟩
    · obtain ⟨x, hk⟩ := (hp.succeeded hc).2
      exact ⟨s', x, (visits_snoc hr he).2 (.inr rfl), hk⟩

/-! ### The invariant -/

/-- The counters agree with what has happened in the course of events. -/
structure Booked (s₀ : System ρ τ σ) (es : List (Event ρ σ)) (s : System ρ τ σ) : Prop where
  even : s.gateway.Even
  /-- Durations are owed for the requests that are under way or have been dropped. -/
  owed : s.gateway.owed =
    (underWay Activity.isAsking s + dropped Activity.isAsking s₀ es : Nat)
  /-- A request that is given up is answered by an I/O error, is about to be, or is dropped. -/
  failed : s.gateway.metrics.remoteErrors = (ioErrors s₀ es).ncard +
    underWay Activity.isFailing s + dropped Activity.isFailing s₀ es
  /-- An attempt that has not failed has succeeded, is under way, or has been dropped. -/
  opened : s.gateway.opened = ((everConnected s₀ es).ncard +
    underWay Activity.isOpening s + dropped Activity.isOpening s₀ es : Nat)
  finite_ioErrors : (ioErrors s₀ es).Finite
  finite_everConnected : (everConnected s₀ es).Finite

/-- How many more requests have been answered by an I/O error. -/
theorem Known.ncard_ioErrors (hk : Known s₀ es s) (hr : Run s₀ es s)
    (he : s.after? (.advance id) = some s') {t t' : Task τ σ} (ht : s.task? id = some t)
    (ht' : s'.task? id = some t') (hfin : (ioErrors s₀ es).Finite) :
    (ioErrors s₀ (es ++ [.advance id])).Finite ∧
      (ioErrors s₀ (es ++ [.advance id])).ncard = (ioErrors s₀ es).ncard +
        (t.activity.isFailing && !t'.activity.isFailing).toNat := by
  have hmem (k : TaskId) : k ∈ ioErrors s₀ (es ++ [.advance id]) ↔
      k ∈ ioErrors s₀ es ∨ GivenUp s (.advance id) s' k := hk.mem_ioErrors_snoc hr he
  have hgiven {k : TaskId} : GivenUp s (.advance id) s' k ↔
      k = id ∧ (t.activity.isFailing && !t'.activity.isFailing) = true := by
    constructor
    · rintro ⟨heq, t₁, t₂, ht₁, ht₂, hf, hf'⟩
      cases heq
      cases ht.symm.trans ht₁
      cases ht'.symm.trans ht₂
      exact ⟨rfl, by rw [hf, hf']; rfl⟩
    · rintro ⟨rfl, hf⟩
      rw [Bool.and_eq_true, Bool.not_eq_true'] at hf
      exact ⟨rfl, t, t', ht, ht', hf.1, hf.2⟩
  cases hb : t.activity.isFailing && !t'.activity.isFailing with
  | false =>
    have hsame : ioErrors s₀ (es ++ [.advance id]) = ioErrors s₀ es := by
      ext k
      rw [hmem, hgiven, hb]
      simp
    rw [hsame]
    exact ⟨hfin, rfl⟩
  | true =>
    have hinsert : ioErrors s₀ (es ++ [.advance id]) = insert id (ioErrors s₀ es) := by
      ext k
      rw [hmem, hgiven, hb, Set.mem_insert_iff]
      simp [or_comm]
    have hnot : id ∉ ioErrors s₀ es := by
      rintro ⟨-, u, detail, hv, hres⟩
      rw [hv.finished hr hres ht] at hb
      cases hb
    rw [hinsert]
    exact ⟨hfin.insert id, Set.ncard_insert_of_notMem hnot hfin⟩

/-- How many more holders have been connected. -/
theorem ncard_everConnected {remote : ρ} {workers : Permits}
    (hr : Run (start remote workers) es s) (he : s.after? (.advance id) = some s')
    {t : Task τ σ} (ht : s.task? id = some t)
    (hfin : (everConnected (start remote workers) es).Finite) :
    (everConnected (start remote workers) (es ++ [.advance id])).Finite ∧
      (everConnected (start remote workers) (es ++ [.advance id])).ncard =
        (everConnected (start remote workers) es).ncard +
          (t.activity.opens s.gateway.remote).toNat := by
  have hmem (h : HolderId) := mem_everConnected_snoc (h := h) hr he
  have haccess : s.access? id = t.activity.access? := access?_of_task? ht
  cases hb : t.activity.opens s.gateway.remote with
  | false =>
    have hsame : everConnected (start remote workers) (es ++ [.advance id]) =
        everConnected (start remote workers) es := by
      ext h
      rw [hmem, or_iff_left]
      intro hc
      obtain ⟨id', a, heq, ha, -, hopens⟩ := calls_succeeded_eq_one hc
      cases heq
      rw [Activity.opens, ← haccess, ha, Option.any_some, hopens] at hb
      cases hb
    rw [hsame]
    exact ⟨hfin, rfl⟩
  | true =>
    obtain ⟨a, ha, hopens⟩ := Option.any_eq_true _ _ |>.1 hb
    rw [← haccess] at ha
    have hcalls : (calls a.holder s (.advance id) s').succeeded = 1 := by
      rw [calls_advance s' ha rfl, hopens]
      rfl
    have hinsert : everConnected (start remote workers) (es ++ [.advance id]) =
        insert a.holder (everConnected (start remote workers) es) := by
      ext h
      rw [hmem, Set.mem_insert_iff, or_comm]
      refine or_congr_left ⟨fun hc => ?_, fun hh => hh ▸ hcalls⟩
      obtain ⟨id', a', heq, ha', hh, -⟩ := calls_succeeded_eq_one hc
      cases heq
      cases ha.symm.trans ha'
      exact hh.symm
    have hnot : a.holder ∉ everConnected (start remote workers) es := by
      intro hh
      have hp := (disciplined_of_run hr).progress (change_of_after? he) a.holder
      exact link_of_everConnected hr hh (hp.succeeded hcalls).1
    rw [hinsert]
    exact ⟨hfin.insert _, Set.ncard_insert_of_notMem hnot hfin⟩

/-- An event that is no step of a task gives no answer and no session. -/
theorem Known.same_of_not_advance {remote : ρ} {workers : Permits}
    (hk : Known (start remote workers) es s) (hr : Run (start remote workers) es s)
    (he : s.after? e = some s') (hno : ∀ id, e ≠ .advance id) :
    ioErrors (start remote workers) (es ++ [e]) = ioErrors (start remote workers) es ∧
      everConnected (start remote workers) (es ++ [e]) =
        everConnected (start remote workers) es := by
  constructor
  · ext k
    rw [hk.mem_ioErrors_snoc hr he, or_iff_left]
    rintro ⟨rfl, -⟩
    exact hno k rfl
  · ext h
    rw [mem_everConnected_snoc hr he, or_iff_left]
    intro hc
    obtain ⟨id, a, rfl, -⟩ := calls_succeeded_eq_one hc
    exact hno id rfl

/-- An event that is no step of a task has nothing counted but the cached holders, and no task is
under way any more that it drops. -/
theorem posts_of_not_advance (he : s.after? e = some s') (hno : ∀ id, e ≠ .advance id) :
    s.gateway.Posts s'.gateway 0 0 0 ∧
      ∀ p : Activity τ σ → Bool, (∀ op, p (.beginning op) = false) →
        underWay p s' + drops p s e = underWay p s := by
  cases e with
  | begin op =>
    cases he
    refine ⟨.refl _, fun p hp => ?_⟩
    simp [underWay, begin, drops, Task.ofOperation, hp]
  | advance id => exact absurd rfl (hno id)
  | abandon id =>
    cases he
    rcases abandon_cases s id with ⟨hnone, hsame⟩ | ⟨t, ht, hs⟩
    · rw [hsame]
      exact ⟨.refl _, fun p _ => by rw [drops, hnone]; rfl⟩
    · have htasks : (s.abandon id).tasks = s.tasks.set id none := by rw [hs]
      refine ⟨?_, fun p _ => ?_⟩
      · rw [hs, Task.abandon_eq]
        cases t.activity.access? <;> exact Gateway.posts_of_eq rfl rfl rfl rfl
      · have hset := underWay_set (p := p) ht htasks
        rw [drops, ht]
        simpa using hset
  | acquire url =>
    cases he
    exact ⟨Gateway.posts_acquire _ url, fun p _ => rfl⟩
  | addHolder | alter | withdraw =>
    cases he
    exact ⟨Gateway.posts_of_eq rfl rfl rfl rfl, fun p _ => rfl⟩

/-- **Every event keeps the books.** -/
theorem Booked.snoc {remote : ρ} {workers : Permits}
    (hb : Booked (start remote workers) es s) (hk : Known (start remote workers) es s)
    (hr : Run (start remote workers) es s) (he : s.after? e = some s') :
    Booked (start remote workers) (es ++ [e]) s' := by
  have hdropped (p : Activity τ σ → Bool) := dropped_snoc (p := p) hr he
  have howed := hb.owed
  have hfailed := hb.failed
  have hopened := hb.opened
  by_cases hadv : ∃ id, e = .advance id
  · obtain ⟨id, rfl⟩ := hadv
    obtain ⟨t, t', ht, hstep, htasks⟩ := advance_cases he
    have ht' : s'.task? id = some t' := (task?_of_set ht htasks id).trans (if_pos rfl)
    have hposts := Task.posts_of_step hstep
    have hunder (p : Activity τ σ → Bool) := underWay_set (p := p) ht htasks
    obtain ⟨hfin, hio⟩ := hk.ncard_ioErrors hr he ht ht' hb.finite_ioErrors
    obtain ⟨hfin', hever⟩ := ncard_everConnected hr he ht hb.finite_everConnected
    have hasks := hunder Activity.isAsking
    have hfails := hunder Activity.isFailing
    have hopens := hunder Activity.isOpening
    simp only [Option.any_some] at hasks hfails hopens
    refine ⟨hposts.even hb.even, ?_, ?_, ?_, hfin, hfin'⟩
    · rw [hposts.owed, howed, hdropped]
      simp only [drops]
      omega
    · have hcount := hposts.failed
      rw [hdropped, hio]
      simp only [drops]
      cases hf : t.activity.isFailing <;> cases hf' : t'.activity.isFailing <;>
        simp [hf, hf'] at hcount hfails ⊢ <;> omega
    · rw [hposts.opened, hopened, hdropped, hever]
      simp only [drops]
      omega
  · obtain ⟨hio, hever⟩ := hk.same_of_not_advance hr he fun id hid => hadv ⟨id, hid⟩
    obtain ⟨hposts, hunder⟩ := posts_of_not_advance he fun id hid => hadv ⟨id, hid⟩
    have hasks := hunder Activity.isAsking fun _ => rfl
    have hfails := hunder Activity.isFailing fun _ => rfl
    have hopens := hunder Activity.isOpening fun _ => rfl
    refine ⟨hposts.even hb.even, ?_, ?_, ?_, hio ▸ hb.finite_ioErrors,
      hever ▸ hb.finite_everConnected⟩
    · rw [hposts.owed, howed, hdropped]
      omega
    · have hcount := hposts.failed
      rw [hdropped, hio]
      omega
    · rw [hposts.opened, hopened, hdropped, hever]
      omega

theorem booked_of_run {remote : ρ} {workers : Permits} (hr : Run (start remote workers) es s) :
    Booked (start remote workers) es s ∧ Known (start remote workers) es s := by
  generalize hs₀ : (start remote workers : System ρ τ σ) = s₀ at hr
  induction hr with
  | nil =>
    subst hs₀
    have hvisits {u : System ρ τ σ} (hv : Visits (start remote workers) [] u) :
        u = start remote workers := by
      obtain ⟨es₁, es₂, heq, hu⟩ := hv
      obtain ⟨rfl, rfl⟩ := List.append_eq_nil_iff.1 heq.symm
      exact hu.unique (.nil _)
    have hio : ioErrors (start remote workers : System ρ τ σ) [] = ∅ := by
      refine Set.eq_empty_iff_forall_notMem.2 ?_
      rintro id ⟨-, u, detail, hv, hres⟩
      rw [hvisits hv] at hres
      cases hres
    have hever : everConnected (start remote workers : System ρ τ σ) [] = ∅ := by
      refine Set.eq_empty_iff_forall_notMem.2 ?_
      rintro h ⟨u, x, hv, hk⟩
      rw [hvisits hv] at hk
      cases hk
    refine ⟨⟨⟨rfl, rfl, rfl⟩, rfl, ?_, ?_, hio ▸ Set.finite_empty, hever ▸ Set.finite_empty⟩,
      fun {id t} ht => ?_, fun {id t} ht => ?_⟩
    · rw [hio, Set.ncard_empty]
      rfl
    · rw [hever, Set.ncard_empty]
      rfl
    · cases ht
    · cases ht
  | snoc hr he ih =>
    subst hs₀
    exact ⟨ih.1.snoc ih.2 hr he, ih.2.snoc hr he⟩

/-- **The counters of a gateway balance**, in every run, whatever is asked for and whatever the
remote side does. At every moment each line that has been taken up is counted by what it asks for,
the gauge shows how many holders are cached, and the two counters of attributes that could not be
had are equal. Once no task is under way, the duration of each request has been taken, each request
to read attributes that was answered by an I/O error has been counted, and so has each attempt to
open a session that did not make a holder connected, but for the tasks that were dropped on their
way; in a run without such tasks there is no exception. -/
theorem counters_balance {remote : ρ} {workers : Permits}
    (hr : Run (start remote workers) es s) :
    s.gateway.commands = s.gateway.metrics.getCommands + s.gateway.metrics.closeCommands +
      s.gateway.metrics.invalidCommands ∧
    s.gateway.metrics.cachedEndpoints = s.gateway.cache.size ∧
    s.gateway.unavailable = s.gateway.metrics.attributeFailures ∧
    ((∀ id, ¬ s.Unfinished id) →
      s.gateway.metrics.latencies + dropped Activity.isAsking (start remote workers) es =
        s.gateway.metrics.getCommands + s.gateway.metrics.closeCommands ∧
      s.gateway.metrics.remoteErrors = (ioErrors (start remote workers) es).ncard +
        dropped Activity.isFailing (start remote workers) es ∧
      s.gateway.metrics.connectAttempts = s.gateway.metrics.connectFailures +
        (everConnected (start remote workers) es).ncard +
          dropped Activity.isOpening (start remote workers) es) ∧
    ((∀ id, .abandon id ∉ es) → ∀ p, dropped p (start remote workers) es = 0) := by
  obtain ⟨hb, -⟩ := booked_of_run hr
  refine ⟨hb.even.commands, hb.even.cached, hb.even.unavailable, fun hidle => ?_,
    fun hno p => dropped_eq_zero hno _⟩
  have hasks := underWay_eq_zero hidle fun _ => Activity.result?_of_isAsking
  have hfails := underWay_eq_zero hidle fun _ => Activity.result?_of_isFailing
  have hopens := underWay_eq_zero hidle fun _ => Activity.result?_of_isOpening
  have howed := hb.owed
  have hfailed := hb.failed
  have hopened := hb.opened
  rw [hasks, Nat.zero_add, Gateway.owed] at howed
  rw [hfails, Nat.add_zero] at hfailed
  rw [hopens, Nat.add_zero, Gateway.opened] at hopened
  exact ⟨by omega, hfailed, by omega⟩

/-- Requests for an attribute and for one whose channel fails, a request to drop the connection,
answered between them, and a line that is no request. -/
def fourLines : List (Event Registry Nat) :=
  [.alter fun r => (r.register "u").modify "u" fun e =>
      (e.setAttribute "b" "a" (.int 1)).injectFault "b" "broken" (.channel "lost"),
    .begin (.answer "GET u %s b a"), .begin (.answer "CLOSE u"),
    .begin (.answer "GET u %s b broken"), .begin (.answer "PING")] ++
  List.replicate 13 (.advance 0) ++ List.replicate 5 (.advance 1) ++ [.advance 3] ++
  List.replicate 16 (.advance 2)

/-- The task of the request whose channel has failed, when it has closed its holder. -/
def metLost : Task Registry.Found Nat :=
  { activity := .returning (.givingUp (.remoteChannel "lost")) 1 .closed }

theorem counters_balance_fourLines :
    ∃ s, Run inMemory (fourLines ++ [.advance 2]) s ∧ s.gateway.metrics.latencies = 3 ∧
      (ioErrors inMemory (fourLines ++ [.advance 2])).ncard = 1 ∧
      (everConnected inMemory (fourLines ++ [.advance 2])).ncard = 2 := by
  have hr₀ : Run inMemory fourLines (inMemory.behind fourLines) := run_behind (by decide +kernel)
  have hmet : (inMemory.behind fourLines).task? 2 = some metLost := by with_unfolding_all rfl
  have hmetrics₀ : (inMemory.behind fourLines).gateway.metrics =
      { cachedEndpoints := 0, getCommands := 2, closeCommands := 1, invalidCommands := 1,
        connectAttempts := 2, remoteErrors := 1, latencies := 2 } := by decide +kernel
  obtain ⟨s, hs, hres, -, hmetrics, hother⟩ := answers_of_resume hmet rfl rfl
  have hr : Run inMemory (fourLines ++ [.advance 2]) s := .snoc hr₀ hs
  have hidle : ∀ id, ¬ s.Unfinished id := by
    have hall : (inMemory.behind fourLines).tasks.zipIdx.all
        (fun o => o.2 == 2 || o.1.all fun t => t.activity.result?.isSome) = true := by
      decide +kernel
    rintro id ⟨t, ht, hu⟩
    by_cases hid : id = 2
    · subst hid
      rw [result?, ht, Option.bind_some, hu] at hres
      cases hres
    · rw [hother id hid] at ht
      have hmem : (some t, id) ∈ (inMemory.behind fourLines).tasks.zipIdx :=
        List.mem_zipIdx_iff_getElem?.2 (Option.join_eq_some_iff.1 ht)
      simpa [hid, hu] using List.all_eq_true.1 hall _ hmem
  have hno : ∀ id, .abandon id ∉ fourLines ++ [.advance 2] := by simp [fourLines]
  obtain ⟨-, -, -, hsettled, hzero⟩ := counters_balance hr
  obtain ⟨-, hfailed, hopened⟩ := hsettled hidle
  rw [hmetrics, hzero hno, Nat.add_zero, Activity.answer, Gateway.count, hmetrics₀]
    at hfailed hopened
  refine ⟨s, hr, ?_, hfailed.symm, (Nat.zero_add _).symm.trans hopened.symm⟩
  rw [hmetrics, Activity.answer, Gateway.count, hmetrics₀]

end System

end AttributeGateway
