import AttributeGateway.Proofs.Gateway.Addressing
import AttributeGateway.Proofs.Gateway.Effort
import AttributeGateway.Proofs.Gateway.Employment
import AttributeGateway.Proofs.Gateway.Progress
import Mathlib.Data.List.TakeWhile

/-!
# Endpoints that do not answer

When some endpoints do not answer, the tasks that are addressed to them stand still, and they have
what they have: locks of holders of these endpoints, and permits. A request that is addressed to
another endpoint, or to none, shares no lock with them. It shares the permits with them; these are
given in the order in which they are asked for, so all that matters is how many of those that stand
still have asked before it.

* `Activity.url?` — the URL that a task is addressed to; a request keeps to it (`url?_step`).
* `System.ahead` — how many tasks that stand still have a permit or wait for one ahead of a task; it
  does not grow once the task has asked for a permit (`ahead_after?`).
* `System.exists_goesOn` — as long as they are fewer than the permits, some other task goes on.
* `System.finishes` — so a request comes to its answer while they stand still.
-/

namespace AttributeGateway

variable {ρ τ σ : Type}

/-! ### The URL of a task -/

/-- The URL that a request line is addressed to. -/
def Command.url? (line : String) : Option String :=
  match parse line with
  | .ok c => some c.endpoint
  | .error _ => none

namespace Activity

variable {g g' g₁ : Gateway ρ σ} {id : TaskId} {act act' : Activity τ σ} {h : HolderId}
  {r : Reading} {next : Gateway ρ σ × Activity τ σ}

/-- The URL that a task is addressed to: that of its line, and of the holder that it uses. -/
def url? (g : Gateway ρ σ) : Activity τ σ → Option String
  | .beginning (.submit line) | .beginning (.answer line) | .queueing line => Command.url? line
  | .requesting _ a | .accessing a | .clearing a _ => some (g.endpoint a.holder)
  | .returning _ h _ => some (g.endpoint h)
  | _ => none

theorem url?_of_access {a : Access τ σ} (ha : act.access? = some a) :
    act.url? g = some (g.endpoint a.holder) := by
  cases act <;> cases ha <;> rfl

/-- What others do leaves the URL of a task as it is. -/
theorem url?_grows (hs : act.Sound g) (hg : g.Grows g') : act.url? g' = act.url? g := by
  cases act with
  | beginning op => cases op <;> rfl
  | requesting p a | accessing a | clearing a urls => exact congrArg some (hg.endpoint hs.1)
  | returning p h o => exact congrArg some (hg.endpoint hs)
  | _ => rfl

/-- A request uses a holder of the URL for which it reads attributes. -/
def Coherent (g : Gateway ρ σ) : Activity τ σ → Prop
  | .requesting p a => g.Made a.holder ∧ p.Addressed (g.endpoint a.holder)
  | .returning p h _ => g.Made h ∧ p.Addressed (g.endpoint h)
  | _ => True

theorem Coherent.grows (hc : act.Coherent g) (hg : g.Grows g') : act.Coherent g' := by
  cases act with
  | requesting p a => exact ⟨hg.made hc.1, by rw [hg.endpoint hc.1]; exact hc.2⟩
  | returning p h o => exact ⟨hg.made hc.1, by rw [hg.endpoint hc.1]; exact hc.2⟩
  | _ => trivial

/-- A request goes on for a URL, unless it has been answered. -/
def Heads (url : Option String) (next : Gateway ρ σ × Activity τ σ) : Prop :=
  next.2.Coherent next.1 ∧ (next.2.result? = none → next.2.url? next.1 = url)

theorem heads_finished (url : Option String) (g : Gateway ρ σ) (r : Result σ) :
    Heads (τ := τ) url (g, .finished r) := ⟨trivial, nofun⟩

theorem heads_connect (hk : g.Keyed) (r : Reading) (inside again : Bool) :
    Heads (τ := τ) (some r.get.endpoint) (connect r inside again g) := by
  obtain ⟨hm, he⟩ :=
    hk.grows (g.evolves_acquire r.get.endpoint).grows _ _ (g.cached?_acquire r.get.endpoint)
  exact ⟨⟨hm, he.symm⟩, fun _ => congrArg some he⟩

theorem heads_giveUp (hm : g.Made h) (f : Fault) :
    Heads (τ := τ) (some (g.endpoint h)) (giveUp h f g) := by
  have hev : g.Evolves (giveUp (τ := τ) h f g).1 :=
    (g.counts_count _).evolves.trans (Gateway.evolves_invalidate _ h)
  exact ⟨⟨hev.made hm, trivial⟩, fun _ => congrArg some (hev.endpoint h hm)⟩

theorem Turn.heads {inside : Bool} {failed : Fault → Prop} (ht : Turn h r inside failed g next)
    (hm : g.Made h) (hr : r.get.endpoint = g.endpoint h) : Heads (some (g.endpoint h)) next := by
  cases ht with
  | done hc lines => exact heads_finished _ _ _
  | fetch hc r' again bean attributeName hget =>
    have he := hc.evolves.endpoint h hm
    refine ⟨⟨hc.evolves.made hm, ?_⟩, fun _ => congrArg some he⟩
    rw [Purpose.Addressed, hget, hr, he]
  | giveUp hc f =>
    rw [← hc.evolves.endpoint h hm]
    exact heads_giveUp (hc.evolves.made hm) f

theorem Resumed.heads {p : Purpose} {o : Outcome} (hr : Resumed h g p o next) (hk : g.Keyed)
    (hm : g.Made h) (hp : p.Addressed (g.endpoint h)) : Heads (some (g.endpoint h)) next := by
  cases hr with
  | reconnect | refresh =>
    rw [← show _ = g.endpoint h from hp]
    exact heads_connect hk _ _ _
  | refuse | gaveUp | dropped => exact heads_finished _ _ _
  | goOn _ ht | settle _ ht => exact ht.heads hm hp

/-- A step without an access goes on for the URL of the task. -/
theorem Quiet.heads [Remote ρ τ σ] (hq : Quiet id g act next) (hk : g.Keyed) (hc : act.Coherent g)
    (hr : act.isRequest = true) : Heads (act.url? g) next := by
  cases hq with
  | misread hp | dropNone hp => exact heads_finished _ _ _
  | @get line get g₁ hp hcount =>
    have hurl : Command.url? line = some get.endpoint := by rw [Command.url?, hp]; rfl
    rw [url?, hurl]
    exact heads_connect (hk.grows hcount.evolves.grows) ⟨get, [], get.queries⟩ false false
  | @drop line url h g₁ g' hp hcount he =>
    have hurl : Command.url? line = some url := by rw [Command.url?, hp]; rfl
    have hev := Gateway.evolves_evict he
    obtain ⟨hm, hend⟩ := hk.grows hcount.evolves.grows _ h (congrArg Prod.fst he)
    rw [url?, hurl]
    exact ⟨⟨hev.made hm, trivial⟩, fun _ => congrArg some ((hev.endpoint h hm).trans hend)⟩
  | submit line => exact ⟨trivial, fun _ => rfl⟩
  | resume hr => exact hr.heads hk hc.1 hc.2
  | clear ha | skip ha => rcases ha with rfl | ⟨rfl, -⟩ <;> cases hr
  | _ => cases hr

/-- **A request goes on for its URL.** -/
theorem heads_step [Remote ρ τ σ] (h : act.step id g = some (g', act')) (hk : g.Keyed)
    (hc : act.Coherent g) (hr : act.isRequest = true) : Heads (act.url? g) (g', act') := by
  cases ha : act.access? with
  | none => exact (quiet_of_step ha h).heads hk hc hr
  | some a =>
    obtain ⟨n, hstep, rfl⟩ := step_access ha h
    have hg := hstep.touches.grows
    cases act with
    | requesting p b =>
      cases ha
      have he := hg.endpoint hc.1
      have hp : p.Addressed (g'.endpoint a.holder) := by
        rw [he]
        exact hc.2
      cases n with
      | inl b =>
        have hb := hstep.same.1
        refine ⟨⟨?_, ?_⟩, fun _ => ?_⟩
        · rw [hb]
          exact hg.made hc.1
        · rw [hb]
          exact hp
        · change some (g'.endpoint b.holder) = _
          rw [hb, he]
          rfl
      | inr o => exact ⟨⟨hg.made hc.1, hp⟩, fun _ => congrArg some he⟩
    | accessing | clearing => cases hr
    | _ => cases ha

/-- A step leaves a request coherent. -/
theorem Coherent.step [Remote ρ τ σ] (hc : act.Coherent g) (hk : g.Keyed)
    (hr : act.isRequest = true) (h : act.step id g = some (g', act')) : act'.Coherent g' :=
  (heads_step h hk hc hr).1

/-- **A request keeps to its URL** until it has been answered. -/
theorem url?_step [Remote ρ τ σ] (hc : act.Coherent g) (hk : g.Keyed)
    (hr : act.isRequest = true) (h : act.step id g = some (g', act'))
    (hu : act'.result? = none) : act'.url? g' = act.url? g := (heads_step h hk hc hr).2 hu

theorem url?_of_result {r : Result σ} (h : act.result? = some r) : act.url? g = none := by
  cases act with
  | finished => rfl
  | _ => cases h

end Activity

/-! ### Queues -/

/-- Leaving out elements that do not end a beginning only makes it shorter. -/
theorem takeWhile_filter_sublist {α : Type} {q r : α → Bool} (h : ∀ a, q a = false → r a = true)
    (l : List α) : ((l.filter q).takeWhile r).Sublist (l.takeWhile r) := by
  induction l with
  | nil => exact .slnil
  | cons a l ih =>
    cases hq : q a with
    | false =>
      rw [List.filter_cons_of_neg (by simp [hq]), List.takeWhile_cons_of_pos (h a hq)]
      exact ih.cons a
    | true =>
      rw [List.filter_cons_of_pos hq, List.takeWhile_cons, List.takeWhile_cons]
      split
      · exact ih.cons_cons a
      · exact .slnil

namespace System

variable {s s' : System ρ τ σ} {e : Event ρ σ} {id k : TaskId} {total : Nat}
  {stalled : String → Bool}

/-! ### Tasks that stand still -/

/-- The URL that a task is addressed to. -/
def url? (s : System ρ τ σ) (id : TaskId) : Option String :=
  (s.task? id).bind fun t => t.activity.url? s.gateway

/-- Whether a task is addressed to an endpoint that does not answer. -/
def isStalled (stalled : String → Bool) (s : System ρ τ σ) (id : TaskId) : Bool :=
  (s.url? id).any stalled

/-- How many tasks that are addressed to endpoints that do not answer have a permit or wait for one
ahead of a task. -/
def ahead (stalled : String → Bool) (s : System ρ τ σ) (k : TaskId) : Nat :=
  (s.gateway.workers.entries.takeWhile (· ≠ k)).countP (s.isStalled stalled)

theorem url?_of_task? {t : Task τ σ} (ht : s.task? id = some t) :
    s.url? id = t.activity.url? s.gateway := by
  rw [url?, ht, Option.bind_some]

/-- What is ahead of a task does not grow when others leave, or come behind it. -/
theorem ahead_le (hst : ∀ id ∈ s.gateway.workers.entries,
      s'.isStalled stalled id = true → s.isStalled stalled id = true)
    (hw : s'.gateway.workers.entries = s.gateway.workers.entries ∨
      (∃ id, id ≠ k ∧
        s'.gateway.workers.entries = s.gateway.workers.entries.filter (· ≠ id)) ∨
      ∃ id, (k ∈ s.gateway.workers.entries ∨ s'.isStalled stalled id = false) ∧
        s'.gateway.workers.entries = s.gateway.workers.entries ++ [id]) :
    s'.ahead stalled k ≤ s.ahead stalled k := by
  have hmono {l : List TaskId} (hl : l.Sublist (s.gateway.workers.entries.takeWhile (· ≠ k))) :
      l.countP (s'.isStalled stalled) ≤ s.ahead stalled k := by
    refine (List.countP_mono_left fun id hid => hst id ?_).trans hl.countP_le
    exact (List.takeWhile_sublist _).subset (hl.subset hid)
  rw [ahead]
  rcases hw with hw | ⟨id, hne, hw⟩ | ⟨id, hid, hw⟩ <;> rw [hw]
  · exact hmono (List.Sublist.refl _)
  · refine hmono (takeWhile_filter_sublist (fun a ha => ?_) _)
    simp only [decide_eq_false_iff_not, not_not] at ha
    simpa [ha] using hne
  · rw [List.takeWhile_append]
    split
    · next hlen =>
      have hall : s.gateway.workers.entries.takeWhile (· ≠ k) = s.gateway.workers.entries :=
        (List.takeWhile_sublist _).eq_of_length hlen
      have hnew : ([id].takeWhile (· ≠ k)).countP (s'.isStalled stalled) = 0 := by
        rcases hid with hk | hid
        · rw [← hall] at hk
          have hne : decide (k ≠ k) = true := List.mem_takeWhile_imp (p := (decide <| · ≠ k)) hk
          exact absurd rfl (of_decide_eq_true hne)
        · exact List.countP_eq_zero.2 fun a ha => by
            rw [List.mem_singleton.1 ((List.takeWhile_sublist _).subset ha), hid]
            exact Bool.false_ne_true
      rw [List.countP_append, hnew, Nat.add_zero]
      exact hmono (by rw [hall])
    · exact hmono (List.Sublist.refl _)

section Requesting

variable [Remote ρ τ σ]

/-- Every task answers a request line, with holders of its URL. -/
structure Requesting (total : Nat) (s : System ρ τ σ) : Prop where
  kept : WellKept total s
  requests : Requests s
  coherent : ∀ id t, s.task? id = some t → t.activity.Coherent s.gateway

omit [Remote ρ τ σ] in
theorem requesting_start (remote : ρ) (total : Nat) :
    Requesting total (start remote ⟨total, [], [], false⟩ : System ρ τ σ) where
  kept := wellKept_start remote total
  requests _ _ ht := by cases ht
  coherent _ _ ht := by cases ht

/-- As long as only tasks for lines begin, every task answers a line. -/
theorem Requesting.after? (hs : Requesting total s) (hP : Proper s e) (h : s.after? e = some s')
    (hop : ∀ op, e = .begin op → (Activity.beginning op : Activity τ σ).isRequest = true) :
    Requesting total s' := by
  have hboth := activity_after? (I := fun g act => act.Coherent g ∧ act.isRequest = true) h
    (fun id t ht => ⟨hs.coherent id t ht, hs.requests id t ht⟩)
    (fun hI hg => ⟨hI.1.grows hg, hI.2⟩)
    (fun hI hstep => ⟨hI.1.step hs.kept.current.keyed hI.2 hstep,
      (Activity.effort_step hstep hI.2).2⟩)
    (fun _ => ⟨trivial, rfl⟩) ⟨trivial, rfl⟩ fun op he => ⟨trivial, hop op he⟩
  exact ⟨hs.kept.after? hP h, fun id t ht => (hboth id t ht).2, fun id t ht => (hboth id t ht).1⟩

theorem Requesting.advance (hs : Requesting total s) (h : s.advance? id = some s') :
    Requesting total s' :=
  hs.after? (proper_of_isPlain (e := .advance id) rfl) h nofun

/-! ### What stands still ahead of a task -/

/-- A task that there is keeps to its URL until it has come to its result or is dropped. -/
theorem url?_after? (hs : Requesting total s) (h : s.after? e = some s')
    (hid : id < s.tasks.length) : s'.url? id = s.url? id ∨ s'.url? id = none := by
  cases ht' : s'.task? id with
  | none =>
    refine .inr ?_
    rw [url?, ht', Option.bind_none]
  | some t' =>
    rw [url?_of_task? ht']
    rcases task?_cases h ht' with ht | ⟨t, -, ht, hstep⟩ | ⟨-, -, -, hnew⟩
    · rw [url?_of_task? ht]
      exact .inl (Activity.url?_grows (hs.kept.current.sound id t' ht) (grows_of_after? h))
    · rw [url?_of_task? ht]
      rcases Task.step_cases hstep with ⟨line, hline, -, hact | hact⟩ | ⟨g₁, hact, hg⟩
      · exact .inr (by rw [hact]; rfl)
      · exact .inl (by rw [hact, hline]; rfl)
      · have hworkers : t'.activity.url? s'.gateway = t'.activity.url? g₁ := by
          rw [hg]
          cases t'.activity <;> rfl
        rw [hworkers]
        cases hr : t'.activity.result? with
        | some r => exact .inr (Activity.url?_of_result hr)
        | none =>
          exact .inl (Activity.url?_step (hs.coherent id t ht) hs.kept.current.keyed
            (hs.requests id t ht) hact hr)
    · exact absurd hnew (Nat.ne_of_lt hid)

/-- No task comes to stand still. -/
theorem isStalled_of_after? (hs : Requesting total s) (h : s.after? e = some s')
    (hid : id < s.tasks.length) (hst : s'.isStalled stalled id = true) :
    s.isStalled stalled id = true := by
  rw [isStalled] at hst ⊢
  rcases url?_after? hs h hid with hurl | hurl <;> rw [hurl] at hst
  · exact hst
  · cases hst

/-- The step of a task that does not stand still leaves those that do where they are. -/
theorem isStalled_advance (hs : Requesting total s) (h : s.advance? id = some s')
    (hid : s.isStalled stalled id = false) (id' : TaskId) :
    s'.isStalled stalled id' = s.isStalled stalled id' := by
  obtain ⟨t, t', ht, hstep, htasks⟩ := advance_cases h
  have htask := task?_of_set ht htasks
  by_cases hne : id' = id
  · rw [hne, hid, Bool.eq_false_iff]
    intro hst
    rw [isStalled_of_after? (e := .advance id) hs h (lt_of_task? ht) hst] at hid
    cases hid
  · have hsame : s'.task? id' = s.task? id' := (htask id').trans (if_neg hne)
    rw [isStalled, isStalled, url?, url?, hsame]
    cases ht₁ : s.task? id' with
    | none => rfl
    | some t₁ =>
      rw [Option.bind_some, Option.bind_some, Activity.url?_grows
        (hs.kept.current.sound id' t₁ ht₁) (grows_of_after? (e := .advance id) h)]

/-- A task that there is and that has not come to its result behind an event had not before it. -/
theorem unfinished_of_after? (h : s.after? e = some s') (hid : id < s.tasks.length)
    (hu : s'.Unfinished id) : s.Unfinished id := by
  obtain ⟨t', ht', hun⟩ := hu
  rcases task?_cases h ht' with ht | ⟨t, -, ht, hstep⟩ | ⟨-, -, -, hnew⟩
  · exact ⟨t', ht, hun⟩
  · refine ⟨t, ht, ?_⟩
    rcases Task.step_cases hstep with ⟨line, hline, -⟩ | ⟨g₁, hact, -⟩
    · rw [hline]
      rfl
    · generalize t.activity = act at hact
      cases act with
      | finished => cases hact
      | _ => rfl
  · exact absurd hnew (Nat.ne_of_lt hid)

/-- What an event does to those who have or want permits. -/
theorem entries_after? (h : s.after? e = some s') :
    s'.gateway.workers.entries = s.gateway.workers.entries ∨
      (∃ id, s'.gateway.workers.entries = s.gateway.workers.entries.filter (· ≠ id) ∧
        ¬ s'.Unfinished id) ∨
      ∃ id, e = .advance id ∧
        s'.gateway.workers.entries = s.gateway.workers.entries ++ [id] := by
  cases e with
  | advance id =>
    obtain ⟨t, t', ht, hstep, htasks⟩ := advance_cases h
    have hself : s'.task? id = some t' := (task?_of_set ht htasks id).trans (if_pos rfl)
    rcases Task.workers_cases hstep with hw | ⟨hw, hdone⟩ | ⟨hw, -⟩
    · exact .inl (by rw [hw])
    · refine .inr (.inl ⟨id, by rw [hw, Permits.entries_leave], ?_⟩)
      rintro ⟨t₁, ht₁, hu⟩
      obtain rfl := Option.some.inj (hself.symm.trans ht₁)
      rw [hu] at hdone
      cases hdone
    · exact .inr (.inr ⟨id, rfl, by rw [hw, Permits.entries_request]⟩)
  | abandon id =>
    cases h
    rcases abandon_cases s id with ⟨-, hsame⟩ | ⟨t, ht, hdropped⟩
    · exact .inl (by rw [hsame])
    · refine .inr (.inl ⟨id, ?_, ?_⟩)
      · rw [hdropped, ← Permits.entries_leave]
        exact congrArg Permits.entries (Task.workers_abandon id t s.gateway)
      · rintro ⟨t₁, ht₁, -⟩
        have htasks : (s.abandon id).tasks = s.tasks.set id none := by rw [hdropped]
        rw [task?_of_set ht htasks, if_pos rfl] at ht₁
        cases ht₁
  | acquire url =>
    cases h
    exact .inl (by simp)
  | begin | addHolder | alter | withdraw =>
    cases h
    exact .inl rfl

/-- Who has asked for a permit has it or waits for it until it has come to its result. -/
theorem mem_entries_after? (h : s.after? e = some s') (hk : k ∈ s.gateway.workers.entries)
    (hk' : s'.Unfinished k) : k ∈ s'.gateway.workers.entries := by
  rcases entries_after? h with hw | ⟨id, hw, hid⟩ | ⟨id, -, hw⟩ <;> rw [hw]
  · exact hk
  · exact List.mem_filter.2 ⟨hk, decide_eq_true fun he => hid (he ▸ hk')⟩
  · exact List.mem_append_left _ hk

/-- **Nobody who stands still gets ahead of a task that has asked for a permit**, whatever
happens. -/
theorem ahead_after? (hs : Requesting total s) (h : s.after? e = some s')
    (hk : k ∈ s.gateway.workers.entries) (hk' : s'.Unfinished k) :
    s'.ahead stalled k ≤ s.ahead stalled k := by
  refine ahead_le (fun id hid => isStalled_of_after? hs h ?_) ?_
  · obtain ⟨t, ht, -⟩ := hs.kept.staffed.engaged hid
    exact lt_of_task? ht
  · rcases entries_after? h with hw | ⟨id, hw, hid⟩ | ⟨id, -, hw⟩
    · exact .inl hw
    · exact .inr (.inl ⟨id, fun he => hid (he ▸ hk'), hw⟩)
    · exact .inr (.inr ⟨id, .inl hk, hw⟩)

/-- Nor does one when a task that does not stand still takes a step. -/
theorem ahead_advance (hs : Requesting total s) (h : s.advance? id = some s')
    (hid : s.isStalled stalled id = false) (hk' : s'.Unfinished k) :
    s'.ahead stalled k ≤ s.ahead stalled k := by
  have hsame := isStalled_advance hs h hid
  refine ahead_le (fun id' _ => by rw [hsame]; exact fun h => h) ?_
  rcases entries_after? (e := .advance id) h with hw | ⟨id', hw, hgone⟩ | ⟨id', he, hw⟩
  · exact .inl hw
  · exact .inr (.inl ⟨id', fun he => hgone (he ▸ hk'), hw⟩)
  · cases he
    exact .inr (.inr ⟨id, .inr ((hsame id).trans hid), hw⟩)

/-! ### Who goes on -/

/-- A request that waits for no permit can take its next step, or a request for the same URL can. -/
theorem exists_advance?_of_not_queueing (hs : Requesting total s) {t : Task τ σ}
    (ht : s.task? id = some t) (hu : t.activity.result? = none)
    (hq : ∀ line, t.activity ≠ .queueing line) :
    ∃ id', s.url? id' = s.url? id ∧ (s.advance? id').isSome := by
  cases ha : t.activity.access? with
  | some a =>
    have hurl {id : TaskId} {a : Access τ σ} (ha : s.access? id = some a) :
        s.url? id = some (s.gateway.endpoint a.holder) := by
      obtain ⟨t, ht, hact⟩ := Option.bind_eq_some_iff.1 ha
      rw [url?_of_task? ht, Activity.url?_of_access hact]
    have hself : s.access? id = some a := (access?_of_task? ht).trans ha
    rcases advance?_or_waitsFor_of_access hs.kept.disciplined hs.kept.attended hself with
      hgoes | ⟨id', a', ha', hh, -, hgoes⟩
    · exact ⟨id, rfl, hgoes⟩
    · exact ⟨id', by rw [hurl ha', hurl hself, hh], hgoes⟩
  | none =>
    have hr := hs.requests id t ht
    refine ⟨id, rfl, isSome_advance? ht (Task.isSome_step hq ?_)⟩
    generalize t.activity = act at hu hq ha hr
    cases act with
    | beginning | returning => rfl
    | queueing line => exact absurd rfl (hq line)
    | finished => cases hu
    | requesting => cases ha
    | _ => cases hr

omit [Remote ρ τ σ] in
/-- When nobody who has a permit goes on, everybody who has one stands still. -/
theorem length_held_le_ahead (hk : k ∉ s.gateway.workers.held)
    (hall : ∀ id ∈ s.gateway.workers.held, s.isStalled stalled id = true) :
    s.gateway.workers.held.length ≤ s.ahead stalled k := by
  have hheld : s.gateway.workers.held.takeWhile (· ≠ k) = s.gateway.workers.held := by
    rw [List.takeWhile_eq_self_iff]
    intro id hid
    exact decide_eq_true fun he => hk (he ▸ hid)
  have hcount := List.countP_eq_length.2 hall
  rw [ahead, Permits.entries, List.takeWhile_append, if_pos (by rw [hheld]), List.countP_append,
    hcount]
  exact Nat.le_add_right _ _

/-- **Somebody goes on** who does not stand still, as long as those who stand still ahead of a
request are fewer than the permits. -/
theorem exists_goesOn (hs : Requesting total s) (hu : s.Unfinished k)
    (hk : s.isStalled stalled k = false) (hahead : s.ahead stalled k < total) :
    ∃ id, s.isStalled stalled id = false ∧ (s.advance? id).isSome := by
  -- Who waits for no permit leads to somebody who goes on for the same URL.
  have hwaits {id : TaskId} {t : Task τ σ} (ht : s.task? id = some t)
      (hun : t.activity.result? = none) (hid : s.isStalled stalled id = false)
      (hq : ∀ line, t.activity ≠ .queueing line) :
      ∃ id, s.isStalled stalled id = false ∧ (s.advance? id).isSome := by
    obtain ⟨id', hurl, hgoes⟩ := exists_advance?_of_not_queueing hs ht hun hq
    refine ⟨id', ?_, hgoes⟩
    rw [isStalled, hurl]
    exact hid
  obtain ⟨t, ht, hun⟩ := hu
  by_cases hq : ∃ line, t.activity = .queueing line
  · obtain ⟨line, hq⟩ := hq
    have hstaffed := hs.kept.staffed
    by_cases hgoes : s.gateway.workers.withdrawn = true ∨ k ∈ s.gateway.workers.held
    · exact ⟨k, hk, isSome_advance?_of_queueing ht hq hgoes⟩
    · obtain ⟨-, hnot⟩ := not_or.1 hgoes
      have hqueue : k ∈ s.gateway.workers.queue :=
        (List.mem_append.1 (hstaffed.entered ht hq)).resolve_left hnot
      have hfree := hstaffed.sound.busy (List.ne_nil_of_mem hqueue)
      have htotal := hstaffed.sound.total
      -- All permits are given, so one of them is with somebody who does not stand still.
      obtain ⟨id, hheld, hid⟩ : ∃ id ∈ s.gateway.workers.held, s.isStalled stalled id = false := by
        by_contra hno
        simp only [not_exists, not_and, Bool.not_eq_false] at hno
        have hlength := length_held_le_ahead hnot hno
        omega
      obtain ⟨t', ht', hengaged⟩ := hstaffed.engaged (List.mem_append_left _ hheld)
      by_cases hq' : ∃ line', t'.activity = .queueing line'
      · obtain ⟨line', hq'⟩ := hq'
        exact ⟨id, hid, isSome_advance?_of_queueing ht' hq' (.inr hheld)⟩
      · exact hwaits ht' hengaged.unfinished hid fun line' he => hq' ⟨line', he⟩
  · exact hwaits ht hun hk fun line he => hq ⟨line, he⟩

/-! ### Who comes to an answer -/

/-- Tasks take steps that are not addressed to endpoints that do not answer. -/
def Goes (stalled : String → Bool) (s : System ρ τ σ) (e : Event ρ σ) : Prop :=
  ∃ id, e = .advance id ∧ s.isStalled stalled id = false

/-- What is left of a system while others stand still. -/
structure Beside (stalled : String → Bool) (total : Nat) (s s' : System ρ τ σ) : Prop where
  requesting : Requesting total s'
  /-- No task has been dropped. -/
  present : ∀ {id}, s.task? id ≠ none → s'.task? id ≠ none
  /-- The same tasks stand still. -/
  same : ∀ id, s'.isStalled stalled id = s.isStalled stalled id
  /-- Who has not come to its result had not. -/
  unfinished : ∀ {id}, s'.Unfinished id → s.Unfinished id
  /-- Nobody who stands still has got ahead of a task. -/
  ahead : ∀ {id}, s'.Unfinished id → s'.ahead stalled id ≤ s.ahead stalled id

omit [Remote ρ τ σ] in
theorem Requesting.beside (hs : Requesting total s) : Beside stalled total s s :=
  ⟨hs, fun h => h, fun _ => rfl, fun h => h, fun _ => Nat.le_refl _⟩

theorem Beside.advance {u : System ρ τ σ} (hs : Beside stalled total s u)
    (hid : u.isStalled stalled id = false) (h : u.advance? id = some s') :
    Beside stalled total s s' := by
  obtain ⟨t, t₁, ht, -, htasks⟩ := advance_cases h
  have hthere {k : TaskId} (hk : u.task? k ≠ none) : s'.task? k ≠ none := by
    rw [task?_of_set ht htasks]
    split
    · exact Option.some_ne_none _
    · exact hk
  have hback {k : TaskId} (hk : s'.Unfinished k) : u.Unfinished k := by
    obtain ⟨t', ht', hun⟩ := hk
    have hlt := lt_of_task? ht'
    rw [htasks, List.length_set] at hlt
    exact unfinished_of_after? (e := .advance id) h hlt ⟨t', ht', hun⟩
  exact ⟨hs.requesting.advance h, fun hk => hthere (hs.present hk),
    fun k => (isStalled_advance hs.requesting h hid k).trans (hs.same k),
    fun hk => hs.unfinished (hback hk),
    fun hk => (ahead_advance hs.requesting h hid hk).trans (hs.ahead (hback hk))⟩

/-- **A request comes to its answer while others stand still**, if those ahead of it that stand
still are fewer than the permits. -/
theorem finishes (hs : Requesting total s) {t : Task τ σ} (ht : s.task? k = some t)
    (hk : s.isStalled stalled k = false)
    (hahead : s.Unfinished k → s.ahead stalled k < total) :
    ∃ es s' r, RunWhere (Goes stalled) s es s' ∧ s'.result? k = some (.answered r) := by
  induction heffort : s.effort using Nat.strongRecOn generalizing s t with
  | _ n ih =>
    cases hres : t.activity.result? with
    | some r =>
      have hr := hs.requests k t ht
      obtain ⟨r', rfl⟩ : ∃ r', r = .answered r' := by
        cases hact : t.activity <;> rw [hact] at hres hr <;> cases hres
        cases r <;> first | exact ⟨_, rfl⟩ | cases hr
      exact ⟨[], s, r', .nil s, by rw [result?, ht, Option.bind_some, hres]⟩
    | none =>
      have hu : s.Unfinished k := ⟨t, ht, hres⟩
      obtain ⟨id, hid, hgoes⟩ := exists_goesOn hs hu hk (hahead hu)
      obtain ⟨s₁, hs₁⟩ := Option.isSome_iff_exists.1 hgoes
      obtain ⟨t₀, t₀', ht₀, -, htasks⟩ := advance_cases hs₁
      -- The request is still there.
      obtain ⟨t₁, ht₁⟩ : ∃ t₁, s₁.task? k = some t₁ := by
        rw [task?_of_set ht₀ htasks]
        split
        · exact ⟨t₀', rfl⟩
        · exact ⟨t, ht⟩
      have hk₁ : s₁.isStalled stalled k = false := (isStalled_advance hs hs₁ hid k).trans hk
      have hless : s₁.effort < n := heffort ▸ effort_advance hs.requests hs₁
      obtain ⟨es, s', r, hrun, hanswer⟩ := ih _ hless (hs.advance hs₁) ht₁ hk₁
        (fun hu₁ => Nat.lt_of_le_of_lt (ahead_advance hs hs₁ hid hu₁) (hahead hu)) rfl
      have hP : Goes stalled s (.advance id) := ⟨id, rfl, hid⟩
      have hfirst : RunWhere (Goes stalled) s ([] ++ [.advance id]) s₁ := .snoc (.nil s) hP hs₁
      exact ⟨_, s', r, hfirst.trans hrun, hanswer⟩

end Requesting

end System

end AttributeGateway
