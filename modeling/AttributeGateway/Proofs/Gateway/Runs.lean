import AttributeGateway.Proofs.Gateway.Steps
import AttributeGateway.Proofs.Runs
import AttributeGateway.Remote.Registry

/-!
# Runs of a system

A run begins with a gateway that has no holders. Each of its events changes the gateway, or the
access of one task; and there are conditions that the events of a run can be expected to meet.

* `Change` — what an event does to locks, links and accesses: one access moves on or is dropped, or
  the gateway evolves; `change_of_after?` says that nothing else happens.
* `Knows` — nobody names a holder that has not been made or a session that has not been handed out.
* `ThroughCache` — nobody closes a holder but by way of the cache.
-/

namespace AttributeGateway

variable {ρ τ σ : Type} [Remote ρ τ σ]

/-! ### Steps of a task -/

/-- A task that waits for a permit goes on with its line or is dismissed; any other takes the step
of its activity. Apart from that only permits change. -/
theorem Task.step_cases {id : TaskId} {t t' : Task τ σ} {g g' : Gateway ρ σ}
    (h : t.step id g = some (g', t')) :
    (∃ line, t.activity = .queueing line ∧ g' = { g with workers := g'.workers } ∧
        (t'.activity = .finished (.answered Activity.dismissed) ∨
          t'.activity = .beginning (.answer line))) ∨
      ∃ g₁, t.activity.step id g = some (g₁, t'.activity) ∧
        g' = { g₁ with workers := g'.workers } := by
  rw [step] at h
  split at h
  · next line ha =>
    refine .inl ⟨line, ha, ?_⟩
    rw [takeUp] at h
    split at h
    · cases h
      exact ⟨rfl, .inl rfl⟩
    · split at h
      · cases h
        exact ⟨rfl, .inr rfl⟩
      · cases h
  · rw [Option.map_eq_some_iff] at h
    obtain ⟨⟨g₁, act⟩, hstep, h⟩ := h
    refine .inr ⟨g₁, ?_⟩
    simp only [settle] at h
    split at h <;> cases h <;> exact ⟨hstep, rfl⟩

omit [Remote ρ τ σ] in
/-- A task that is dropped drops its access, if it has one under way. -/
theorem Task.abandon_eq (id : TaskId) (t : Task τ σ) (g : Gateway ρ σ) :
    t.abandon id g =
      { t.activity.access?.elim g (·.abandon id g) with
        workers := (t.abandon id g).workers } := by
  obtain ⟨act, employed⟩ := t
  cases act <;> rfl

namespace System

variable {s s' : System ρ τ σ} {id id' : TaskId} {e : Event ρ σ} {es : List (Event ρ σ)}

/-! ### Tasks and accesses -/

/-- The access to a holder that a task has under way. -/
def access? (s : System ρ τ σ) (id : TaskId) : Option (Access τ σ) :=
  (s.task? id).bind (·.activity.access?)

omit [Remote ρ τ σ] in
theorem access?_of_task? {t : Task τ σ} (ht : s.task? id = some t) :
    s.access? id = t.activity.access? := by
  rw [access?, ht, Option.bind_some]

omit [Remote ρ τ σ] in
theorem lt_of_task? {t : Task τ σ} (ht : s.task? id = some t) : id < s.tasks.length := by
  by_contra hlt
  rw [task?, List.getElem?_eq_none (Nat.le_of_not_lt hlt)] at ht
  cases ht

omit [Remote ρ τ σ] in
/-- Only the task that is replaced is another one. -/
theorem task?_of_set {t : Task τ σ} {o : Option (Task τ σ)} (ht : s.task? id = some t)
    (hs : s'.tasks = s.tasks.set id o) (id' : TaskId) :
    s'.task? id' = if id' = id then o else s.task? id' := by
  rw [task?, task?, hs]
  split
  · next hid =>
    rw [hid, List.getElem?_set_self (lt_of_task? ht), Option.join_some]
  · next hid => rw [List.getElem?_set_ne (Ne.symm hid)]

/-- A step of a system is a step of one of its tasks. -/
theorem advance_cases (h : s.advance? id = some s') :
    ∃ t t', s.task? id = some t ∧ t.step id s.gateway = some (s'.gateway, t') ∧
      s'.tasks = s.tasks.set id (some t') := by
  simp only [advance?, Option.bind_eq_bind, Option.bind_eq_some_iff] at h
  obtain ⟨t, ht, ⟨g, t'⟩, hstep, h⟩ := h
  cases h
  exact ⟨t, t', ht, hstep, rfl⟩

omit [Remote ρ τ σ] in
/-- The task of an operation that is asked for is added behind the others. -/
theorem task?_begin (s : System ρ τ σ) (op : Operation σ) (id : TaskId) :
    (s.begin op).task? id =
      if id = s.tasks.length then some (.ofOperation op) else s.task? id := by
  rw [task?, task?, begin]
  rcases Nat.lt_trichotomy id s.tasks.length with hid | hid | hid
  · rw [List.getElem?_append_left hid, if_neg (Nat.ne_of_lt hid)]
  · simp [hid]
  · have hlen : (s.tasks ++ [some (Task.ofOperation op)]).length ≤ id := by
      simpa [Nat.succ_le_iff] using hid
    rw [List.getElem?_eq_none hlen, List.getElem?_eq_none (Nat.le_of_lt hid),
      if_neg (Nat.ne_of_gt hid)]

/-! ### What an event does -/

/-- What an event does to locks, links and accesses. -/
inductive Change (s : System ρ τ σ) : Event ρ σ → System ρ τ σ → Prop where
  /-- The access of a task takes a step. -/
  | move {id : TaskId} {a : Access τ σ} {g : Gateway ρ σ} {n : Access.Next τ σ}
      {s' : System ρ τ σ} (ha : s.access? id = some a) (hs : a.Step id s.gateway g n)
      (hg : s'.gateway = { g with workers := s'.gateway.workers })
      (hn : s'.access? id = n.getLeft?) (ho : ∀ id', id' ≠ id → s'.access? id' = s.access? id') :
    Change s (.advance id) s'
  /-- An access is dropped where it stands. -/
  | drop {id : TaskId} {a : Access τ σ} {s' : System ρ τ σ} (ha : s.access? id = some a)
      (hg : s'.gateway = { a.abandon id s.gateway with workers := s'.gateway.workers })
      (hn : s'.access? id = none) (ho : ∀ id', id' ≠ id → s'.access? id' = s.access? id') :
    Change s (.abandon id) s'
  /-- The gateway evolves, apart from the remote side, and at most one access is begun. -/
  | quiet {e : Event ρ σ} {s' : System ρ τ σ} (remote : ρ)
      (hg : ({ s.gateway with remote } : Gateway ρ σ).Evolves s'.gateway)
      (ho : ∀ id, s'.access? id = s.access? id ∨
        s.access? id = none ∧ ∀ a, s'.access? id = some a → a.stage = .beginning)
      (he : ∀ id, e = .advance id ∨ e = .abandon id → s.access? id = none) :
    Change s e s'

theorem change_of_advance? (h : s.advance? id = some s') : Change s (.advance id) s' := by
  obtain ⟨t, t', ht, hstep, hs⟩ := advance_cases h
  have htask := task?_of_set ht hs
  have hself : s'.access? id = t'.activity.access? :=
    access?_of_task? ((htask id).trans (if_pos rfl))
  have ho : ∀ id', id' ≠ id → s'.access? id' = s.access? id' := by
    intro id' hne
    rw [access?, access?, htask, if_neg hne]
  -- A step without an access leaves none or begins one.
  have hquiet (remote : ρ) (ha : t.activity.access? = none)
      (hf : Activity.Follows { s.gateway with remote } (s'.gateway, t'.activity)) :
      Change s (.advance id) s' := by
    have hnone : s.access? id = none := (access?_of_task? ht).trans ha
    refine .quiet remote hf.evolves (fun id' => ?_) fun id' he => ?_
    · by_cases hid : id' = id
      · subst hid
        exact .inr ⟨hnone, fun a ha' => hf.fresh a (hself.symm.trans ha')⟩
      · exact .inl (ho id' hid)
    · rcases he with he | he
      · cases he
        exact hnone
      · cases he
  rcases Task.step_cases hstep with ⟨line, hline, hg, hact⟩ | ⟨g₁, hact, hg⟩
  · refine hquiet s.gateway.remote (by rw [hline]; rfl) ⟨?_, fun a ha' => ?_⟩
    · rw [hg]
      exact Gateway.evolves_of_eq rfl rfl rfl
    · rcases hact with hact | hact <;> rw [hact] at ha' <;> cases ha'
  · cases ha : t.activity.access? with
    | some a =>
      obtain ⟨n, hn, hon⟩ := Activity.step_access ha hact
      refine .move ((access?_of_task? ht).trans ha) hn hg ?_ ho
      rw [hself, hon, Activity.access?_onward ha]
    | none =>
      obtain ⟨remote, hf⟩ := (Activity.quiet_of_step ha hact).follows
      refine hquiet remote ha ⟨hf.evolves.trans ?_, hf.fresh⟩
      rw [hg]
      exact Gateway.evolves_of_eq rfl rfl rfl

omit [Remote ρ τ σ] in
theorem abandon_cases (s : System ρ τ σ) (id : TaskId) :
    s.task? id = none ∧ s.abandon id = s ∨
      ∃ t, s.task? id = some t ∧
        s.abandon id = { gateway := t.abandon id s.gateway, tasks := s.tasks.set id none } := by
  rw [abandon]
  cases s.task? id with
  | none => exact .inl ⟨rfl, rfl⟩
  | some t => exact .inr ⟨t, rfl, rfl⟩

theorem change_abandon (s : System ρ τ σ) (id : TaskId) :
    Change s (.abandon id) (s.abandon id) := by
  rcases abandon_cases s id with ⟨ht, hs⟩ | ⟨t, ht, hs⟩
  · rw [hs]
    refine .quiet s.gateway.remote (.refl _) (fun _ => .inl rfl)
      fun id' he => ?_
    rcases he with he | he <;> cases he
    rw [access?, ht, Option.bind_none]
  · have htasks : (s.abandon id).tasks = s.tasks.set id none := by rw [hs]
    have htask := task?_of_set ht htasks
    have ho : ∀ id', id' ≠ id → (s.abandon id).access? id' = s.access? id' := by
      intro id' hne
      rw [access?, access?, htask, if_neg hne]
    have hself : (s.abandon id).access? id = none := by
      rw [access?, htask, if_pos rfl, Option.bind_none]
    have hg : (s.abandon id).gateway = t.abandon id s.gateway := by rw [hs]
    rw [Task.abandon_eq] at hg
    cases ha : t.activity.access? with
    | some a =>
      rw [ha] at hg
      exact .drop ((access?_of_task? ht).trans ha) (by rw [hg]; rfl) hself ho
    | none =>
      rw [ha] at hg
      have hnone : s.access? id = none := (access?_of_task? ht).trans ha
      refine .quiet s.gateway.remote ?_ (fun id' => ?_) fun id' he => ?_
      · rw [hg]
        exact Gateway.evolves_of_eq rfl rfl rfl
      · by_cases hid : id' = id
        · subst hid
          exact .inl (hself.trans hnone.symm)
        · exact .inl (ho id' hid)
      · rcases he with he | he <;> cases he
        exact hnone

/-- **Nothing else happens** to locks, links and accesses. -/
theorem change_of_after? (h : s.after? e = some s') : Change s e s' := by
  have hquiet (remote : ρ) (hg : ({ s.gateway with remote } : Gateway ρ σ).Evolves s'.gateway)
      (ho : ∀ id, s'.access? id = s.access? id)
      (he : ∀ id, e ≠ .advance id ∧ e ≠ .abandon id) : Change s e s' :=
    .quiet remote hg (fun id => .inl (ho id))
      fun id hid => hid.elim (fun h => absurd h (he id).1) fun h => absurd h (he id).2
  cases e with
  | begin op =>
    cases h
    refine hquiet s.gateway.remote (.refl _) (fun id => ?_)
      fun _ => ⟨nofun, nofun⟩
    rw [access?, access?, task?_begin]
    split
    · next hid =>
      subst hid
      rw [task?, List.getElem?_eq_none (Nat.le_refl _)]
      rfl
    · rfl
  | advance id => exact change_of_advance? h
  | abandon id =>
    cases h
    exact change_abandon s id
  | acquire url =>
    cases h
    exact hquiet s.gateway.remote (s.gateway.evolves_acquire url) (fun _ => rfl)
      fun _ => ⟨nofun, nofun⟩
  | addHolder url =>
    cases h
    exact hquiet s.gateway.remote (s.gateway.evolves_addHolder url) (fun _ => rfl)
      fun _ => ⟨nofun, nofun⟩
  | alter change =>
    cases h
    exact hquiet (change s.gateway.remote) (.refl _) (fun _ => rfl)
      fun _ => ⟨nofun, nofun⟩
  | withdraw =>
    cases h
    exact hquiet s.gateway.remote (Gateway.evolves_of_eq rfl rfl rfl) (fun _ => rfl)
      fun _ => ⟨nofun, nofun⟩

/-- A task behind an event was there before as it is, has taken its next step, or has begun. -/
theorem task?_cases (h : s.after? e = some s') {t' : Task τ σ} (ht' : s'.task? id = some t') :
    s.task? id = some t' ∨
      (∃ t, e = .advance id ∧ s.task? id = some t ∧
        t.step id s.gateway = some (s'.gateway, t')) ∨
      ∃ op, e = .begin op ∧ t' = .ofOperation op ∧ id = s.tasks.length := by
  cases e with
  | begin op =>
    cases h
    rw [task?_begin] at ht'
    split at ht'
    · next hid =>
      exact .inr (.inr ⟨op, rfl, (Option.some.inj ht').symm, hid⟩)
    · exact .inl ht'
  | advance id' =>
    obtain ⟨t, t₁, ht, hstep, hs⟩ := advance_cases h
    rw [task?_of_set ht hs] at ht'
    split at ht'
    · next hid =>
      subst hid
      cases ht'
      exact .inr (.inl ⟨t, rfl, ht, hstep⟩)
    · exact .inl ht'
  | abandon id' =>
    cases h
    rcases abandon_cases s id' with ⟨-, hs⟩ | ⟨t, ht, hs⟩
    · rw [hs] at ht'
      exact .inl ht'
    · have htasks : (s.abandon id').tasks = s.tasks.set id' none := by rw [hs]
      rw [task?_of_set ht htasks] at ht'
      split at ht'
      · cases ht'
      · exact .inl ht'
  | acquire url | addHolder url | alter change | withdraw =>
    cases h
    exact .inl ht'

/-- The number of a task is given once. -/
theorem length_tasks_le (h : s.after? e = some s') : s.tasks.length ≤ s'.tasks.length := by
  cases e with
  | begin op =>
    cases h
    exact Nat.le_of_lt (by simp [begin])
  | advance id =>
    obtain ⟨t, t', -, -, hs⟩ := advance_cases h
    exact Nat.le_of_eq (by rw [hs, List.length_set])
  | abandon id =>
    cases h
    rcases abandon_cases s id with ⟨-, hs⟩ | ⟨t, -, hs⟩
    · exact Nat.le_of_eq (by rw [hs])
    · exact Nat.le_of_eq (by rw [hs, List.length_set])
  | acquire url | addHolder url | alter change | withdraw =>
    cases h
    exact Nat.le_refl _

/-! ### Runs -/

/-- A gateway without holders and tasks. -/
def start (remote : ρ) (workers : Permits) : System ρ τ σ := { gateway := { remote, workers } }

/-- A gateway over endpoints in memory, without permits. -/
def inMemory : System Registry Registry.Found Nat := start {} ⟨0, [], [], false⟩

/-- A run of a system in which each event meets a condition. -/
abbrev RunWhere (P : System ρ τ σ → Event ρ σ → Prop) :
    System ρ τ σ → List (Event ρ σ) → System ρ τ σ → Prop := AttributeGateway.RunWhere after? P

/-- A system that a run passes through. -/
abbrev Visits : System ρ τ σ → List (Event ρ σ) → System ρ τ σ → Prop :=
  AttributeGateway.Visits after?

/-- An event of a run, with the system before it and the one behind it. -/
abbrev Occurs :
    System ρ τ σ → List (Event ρ σ) → System ρ τ σ → Event ρ σ → System ρ τ σ → Prop :=
  AttributeGateway.Occurs after?

/-- The system behind events that can happen one after the other. -/
abbrev behind (s : System ρ τ σ) (es : List (Event ρ σ)) : System ρ τ σ :=
  AttributeGateway.behind after? s es

/-! ### Conditions -/

/-- Holders and sessions that an event names have been handed out before: the holder has been made,
the session is the result of a task. -/
def Knows (s : System ρ τ σ) : Event ρ σ → Prop
  | .begin (.access h _) | .begin (.invalidate h) => s.gateway.Made h
  | .begin (.readSession x _ _) | .begin (.endSession x) => ∃ id, s.result? id = some (.opened x)
  | _ => True

end System

namespace Event

variable {ρ σ : Type}

/-- An event does not ask to close a holder but by way of the cache. -/
def ThroughCache : Event ρ σ → Prop
  | .begin (.access _ .close) => False
  | _ => True

/-- Whether an event names no holder and no session. -/
def isPlain : Event ρ σ → Bool
  | .begin (.access _ _) | .begin (.invalidate _) | .begin (.readSession _ _ _)
  | .begin (.endSession _) => false
  | _ => true

end Event

namespace System

/-- Holders and sessions that an event names have been handed out, and it closes no holder but by
way of the cache. -/
def Proper (s : System ρ τ σ) (e : Event ρ σ) : Prop := Knows s e ∧ e.ThroughCache

omit [Remote ρ τ σ] in
theorem proper_of_isPlain {s : System ρ τ σ} {e : Event ρ σ} (h : e.isPlain) : Proper s e := by
  cases e with
  | begin op => cases op <;> first | exact ⟨trivial, trivial⟩ | cases h
  | _ => exact ⟨trivial, trivial⟩

/-- A run without events that name holders or sessions. -/
theorem Run.proper {s s' : System ρ τ σ} {es : List (Event ρ σ)} (h : Run s es s')
    (hes : es.all Event.isPlain) : RunWhere Proper s es s' :=
  h.runWhere fun _ e he => proper_of_isPlain (List.all_eq_true.1 hes e he)

end System

end AttributeGateway
