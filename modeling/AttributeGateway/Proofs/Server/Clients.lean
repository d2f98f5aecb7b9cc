import AttributeGateway.Proofs.Gateway.Permits
import AttributeGateway.Server.Basic

/-!
# What happens to one client

Everything that happens to a server concerns at most one client, and what it does to that client is
said here once: bytes arrive, a line is taken up by a task, reading stops, the answer to the first
line in flight is written, or the client goes. Nothing is ever done for a client that has not been
accepted yet.

* `Step` — what can happen to a server; `step_of_after?` says that there is nothing else.
* `Service` — what an event does to a client; `Step.service`.
* `Step.task?_cases` — what an event does to a task: it stays, takes its next step, begins, or is
  dropped.
* `Fresh` — what has not been given to a client has no connection and no answers; `fresh_of_run`.
-/

namespace AttributeGateway

namespace Server

variable {ρ τ σ : Type} [Remote ρ τ σ] {s s' : Server ρ τ σ} {id : ClientId} {k : TaskId}
  {e : Event ρ} {es : List (Event ρ)}

/-! ### What can happen -/

/-- What can happen to a server, and what becomes of it. -/
inductive Step (s : Server ρ τ σ) : Event ρ → Server ρ τ σ → Prop where
  /-- A client is accepted. -/
  | accept {s' : Server ρ τ σ} (hph : s.phase = .serving) (hp : s.places = s'.places + 1)
      (hc : s'.clients = s.clients.insert (s.accepted + 1)
        (.start s.config.maxLineLength.toNat))
      (ha : s'.accepted = s.accepted + 1) (ho : s'.output = s.output)
      (hf : s'.config = s.config) (ht : s'.system.tasks = s.system.tasks)
      (hw : s'.system.gateway.workers = s.system.gateway.workers)
      (hg : s.system.gateway.Counts s'.system.gateway) (hph' : s'.phase = s.phase) :
      Step s .connect s'
  /-- A client is turned away. -/
  | turnAway (hph : s.phase = .serving) (hp : s.places = 0) : Step s .connect s
  /-- Bytes of a client arrive. -/
  | receive (id : ClientId) (bytes : List UInt8) :
    Step s (.receive id bytes) (s.modifyClient id (·.receive bytes))
  /-- A client ends its input. -/
  | endInput (id : ClientId) : Step s (.endInput id) (s.modifyClient id .endInput)
  /-- Reading from a client fails. -/
  | failInput (id : ClientId) : Step s (.failInput id) (s.modifyClient id .stopReading)
  /-- A line of a client is taken up by a task. -/
  | ask {id : ClientId} {c c' : Connection} {line : String} (hc : s.client? id = some c)
      (hr : c.hasRoom s.config.maxPipelined.toNat) (hp : c.pull? = some (some line, c')) :
    Step s (.read id) { s with
      clients := s.clients.insert id (c'.await s.system.tasks.length)
      system := s.system.begin (.submit line) }
  /-- Reading from a client stops. -/
  | stopReading {id : ClientId} {c c' : Connection} (hc : s.client? id = some c)
      (hr : c.hasRoom s.config.maxPipelined.toNat) (hp : c.pull? = some (none, c')) :
    Step s (.read id) { s with clients := s.clients.insert id c' }
  /-- The answer to the first line in flight is written. -/
  | answer {id : ClientId} {c : Connection} {k : TaskId} {r : Response}
      (hc : s.client? id = some c) (hk : c.inFlight.head? = some k)
      (hr : s.system.result? k = some (.answered r)) :
    Step s (.answer id)
      { s with clients := s.clients.insert id c.settle, output := s.output ++ [(id, r)] }
  /-- A client goes when all its lines have been answered. -/
  | leave {id : ClientId} {c : Connection} (hc : s.client? id = some c) (hd : c.isDone) :
    Step s (.leave id) (s.forget id)
  /-- A client is cut off, and its tasks are dropped. -/
  | cut {id : ClientId} {c : Connection} (hc : s.client? id = some c) :
    Step s (.cut id) ({ s with system := c.inFlight.foldl System.abandon s.system }.forget id)
  /-- A task takes its next step. -/
  | advance {k : TaskId} {system : System ρ τ σ} (h : s.system.advance? k = some system) :
    Step s (.advance k) { s with system }
  /-- The remote side changes by itself. -/
  | alter (change : ρ → ρ) :
    Step s (.alter change)
      { s with system.gateway.remote := change s.system.gateway.remote }
  /-- The permits are withdrawn. -/
  | withdraw :
    Step s .withdraw { s with system.gateway.workers := s.system.gateway.workers.withdraw }
  /-- The server is told to stop. -/
  | stop (hph : s.phase = .serving) : Step s .stop { s with phase := .closing }
  /-- The cache is going to be emptied. -/
  | drain (hph : s.phase = .closing ∧ s.clients.isEmpty) :
    Step s .drain
      { s with phase := .draining s.system.tasks.length, system := s.system.begin .drain }
  /-- The server has stopped. -/
  | finish {k : TaskId} (hph : s.phase = .draining k) (hr : (s.system.result? k).isSome) :
    Step s .finish { s with phase := .stopped }

/-- **Nothing else can happen.** -/
theorem step_of_after? (he : s.after? e = some s') : Step s e s' := by
  cases e with
  | connect =>
    simp only [after?] at he
    split at he
    · next hph =>
      cases he
      rw [connect]
      split
      · next hp => exact .turnAway hph hp
      · next hp => exact .accept hph hp rfl rfl rfl rfl rfl rfl ⟨rfl, rfl, rfl⟩ rfl
    · cases he
  | receive id bytes =>
    cases he
    exact .receive id bytes
  | endInput id =>
    cases he
    exact .endInput id
  | failInput id =>
    cases he
    exact .failInput id
  | read id =>
    simp only [after?, read?, Option.bind_eq_bind, Option.bind_eq_some_iff] at he
    obtain ⟨c, hc, he⟩ := he
    split at he
    · next hr =>
      rw [Option.bind_eq_some_iff] at he
      obtain ⟨⟨line, c'⟩, hp, he⟩ := he
      cases line with
      | some line =>
        cases he
        exact .ask hc hr hp
      | none =>
        cases he
        exact .stopReading hc hr hp
    · cases he
  | answer id =>
    simp only [after?, answer?, Option.bind_eq_bind, Option.bind_eq_some_iff] at he
    obtain ⟨c, hc, k, hk, he⟩ := he
    split at he
    · next r hr =>
      cases he
      exact .answer hc hk hr
    · cases he
  | leave id =>
    simp only [after?, leave?, Option.bind_eq_bind, Option.bind_eq_some_iff] at he
    obtain ⟨c, hc, he⟩ := he
    split at he
    · next hd =>
      cases he
      exact .leave hc hd
    · cases he
  | cut id =>
    simp only [after?, cut?, Option.bind_eq_bind, Option.bind_eq_some_iff] at he
    obtain ⟨c, hc, he⟩ := he
    cases he
    exact .cut hc
  | advance k =>
    simp only [after?, Option.map_eq_some_iff] at he
    obtain ⟨system, h, rfl⟩ := he
    exact .advance h
  | alter change =>
    cases he
    exact .alter change
  | withdraw =>
    cases he
    exact .withdraw
  | stop =>
    simp only [after?] at he
    split at he
    · next hph =>
      cases he
      exact .stop hph
    · cases he
  | drain =>
    simp only [after?, drain?] at he
    split at he
    · next hph =>
      cases he
      exact .drain hph
    · cases he
  | finish =>
    simp only [after?, finish?] at he
    split at he
    · next hph =>
      split at he
      · next hr =>
        cases he
        exact .finish hph hr
      · cases he
    · cases he

/-! ### What it does to a client -/

/-- The client that an event concerns. -/
def Event.client? : Event ρ → Option ClientId
  | .receive id _ | .endInput id | .failInput id | .read id | .answer id | .leave id | .cut id =>
    some id
  | _ => none

/-- The answers that have been written to a client. -/
def answers (s : Server ρ τ σ) (id : ClientId) : List Response :=
  (s.output.filter fun o => o.1 = id).map Prod.snd

omit [Remote ρ τ σ] in
theorem written_eq (s : Server ρ τ σ) (id : ClientId) :
    s.written id = (s.answers id).flatMap Response.encode := by
  rw [written, answers, List.flatMap_map]

omit [Remote ρ τ σ] in
theorem answers_append (s s' : Server ρ τ σ) (id id' : ClientId) (r : Response)
    (ho : s'.output = s.output ++ [(id', r)]) :
    s'.answers id = s.answers id ++ if id' = id then [r] else [] := by
  rw [answers, answers, ho, List.filter_append, List.map_append]
  by_cases hid : id' = id <;> simp [hid]

/-- What an event does to a client. -/
inductive Service (s : Server ρ τ σ) (id : ClientId) : Event ρ → Server ρ τ σ → Prop where
  /-- It does not concern the client. -/
  | other {e : Event ρ} {s' : Server ρ τ σ} (he : e.client? ≠ some id)
      (hc : s'.client? id = s.client? id) (ho : s'.answers id = s.answers id) : Service s id e s'
  /-- Bytes arrive. -/
  | receive {bytes : List UInt8} {s' : Server ρ τ σ}
      (hc : s'.client? id = (s.client? id).map (·.receive bytes))
      (ho : s'.answers id = s.answers id) : Service s id (.receive id bytes) s'
  /-- No bytes arrive any longer. -/
  | endInput {s' : Server ρ τ σ} (hc : s'.client? id = (s.client? id).map (·.endInput))
      (ho : s'.answers id = s.answers id) : Service s id (.endInput id) s'
  /-- Reading fails. -/
  | failInput {s' : Server ρ τ σ} (hc : s'.client? id = (s.client? id).map (·.stopReading))
      (ho : s'.answers id = s.answers id) : Service s id (.failInput id) s'
  /-- A line is taken up by a task. -/
  | ask {c c' : Connection} {line : String} {s' : Server ρ τ σ} (hc : s.client? id = some c)
      (hr : c.hasRoom s.config.maxPipelined.toNat) (hp : c.pull? = some (some line, c'))
      (hc' : s'.client? id = some (c'.await s.system.tasks.length))
      (hs : s'.system = s.system.begin (.submit line)) (ho : s'.answers id = s.answers id) :
      Service s id (.read id) s'
  /-- Reading stops. -/
  | stop {c c' : Connection} {s' : Server ρ τ σ} (hc : s.client? id = some c)
      (hr : c.hasRoom s.config.maxPipelined.toNat) (hp : c.pull? = some (none, c'))
      (hc' : s'.client? id = some c') (ho : s'.answers id = s.answers id) :
    Service s id (.read id) s'
  /-- The answer to the first line in flight is written. -/
  | answer {c : Connection} {k : TaskId} {r : Response} {s' : Server ρ τ σ}
      (hc : s.client? id = some c) (hk : c.inFlight.head? = some k)
      (hr : s.system.result? k = some (.answered r)) (hc' : s'.client? id = some c.settle)
      (ho : s'.answers id = s.answers id ++ [r]) : Service s id (.answer id) s'
  /-- All lines have been answered, and the client goes. -/
  | leave {c : Connection} {s' : Server ρ τ σ} (hc : s.client? id = some c) (hd : c.isDone)
      (hc' : s'.client? id = none) (ho : s'.answers id = s.answers id) : Service s id (.leave id) s'
  /-- The client is cut off. -/
  | cut {c : Connection} {s' : Server ρ τ σ} (hc : s.client? id = some c)
      (hc' : s'.client? id = none) (ho : s'.answers id = s.answers id) : Service s id (.cut id) s'

/-- **An event does nothing else to a client**, unless it accepts the client. -/
theorem Step.service (h : Step s e s') (hid : e = .connect → id ≠ s.accepted + 1) :
    Service s id e s' := by
  -- What is done for another client leaves this one as it is.
  have hinsert {id' : ClientId} {c : Connection} (hne : id' ≠ id) :
      (s.clients.insert id' c).get? id = s.client? id :=
    (Table.get?_insert _ _ _ _).trans (if_neg (Ne.symm hne))
  have herase {id' : ClientId} (hne : id' ≠ id) : (s.clients.erase id').get? id = s.client? id :=
    (Table.get?_erase _ _ _).trans (if_neg (Ne.symm hne))
  have hmodify {id' : ClientId} {f : Connection → Connection} (hne : id' ≠ id) :
      (s.modifyClient id' f).client? id = s.client? id :=
    (Table.get?_modify _ _ _ _).trans (if_neg (Ne.symm hne))
  have hconcerns {id' : ClientId} (hne : id' ≠ id) : some id' ≠ some id :=
    fun h => hne (Option.some.inj h)
  cases h with
  | accept _ _ hc ha ho =>
    refine .other nofun ?_ (by rw [answers, answers, ho])
    rw [client?, hc]
    exact hinsert (Ne.symm (hid rfl))
  | turnAway | advance | alter | withdraw | stop | drain | finish => exact .other nofun rfl rfl
  | receive id' bytes =>
    by_cases hne : id' = id
    · subst hne
      exact .receive ((Table.get?_modify _ _ _ _).trans (if_pos rfl)) rfl
    · exact .other (hconcerns hne) (hmodify hne) rfl
  | endInput id' =>
    by_cases hne : id' = id
    · subst hne
      exact .endInput ((Table.get?_modify _ _ _ _).trans (if_pos rfl)) rfl
    · exact .other (hconcerns hne) (hmodify hne) rfl
  | failInput id' =>
    by_cases hne : id' = id
    · subst hne
      exact .failInput ((Table.get?_modify _ _ _ _).trans (if_pos rfl)) rfl
    · exact .other (hconcerns hne) (hmodify hne) rfl
  | @ask id' c c' line hc hr hp =>
    by_cases hne : id' = id
    · subst hne
      exact .ask hc hr hp ((Table.get?_insert _ _ _ _).trans (if_pos rfl)) rfl rfl
    · exact .other (hconcerns hne) (hinsert hne) rfl
  | @stopReading id' c c' hc hr hp =>
    by_cases hne : id' = id
    · subst hne
      exact .stop hc hr hp ((Table.get?_insert _ _ _ _).trans (if_pos rfl)) rfl
    · exact .other (hconcerns hne) (hinsert hne) rfl
  | @answer id' c k r hc hk hr =>
    have ho := s.answers_append { s with
      clients := s.clients.insert id' c.settle, output := s.output ++ [(id', r)] } id id' r rfl
    by_cases hne : id' = id
    · subst hne
      rw [if_pos rfl] at ho
      exact .answer hc hk hr ((Table.get?_insert _ _ _ _).trans (if_pos rfl)) ho
    · rw [if_neg hne, List.append_nil] at ho
      exact .other (hconcerns hne) (hinsert hne) ho
  | @leave id' c hc hd =>
    by_cases hne : id' = id
    · subst hne
      exact .leave hc hd ((Table.get?_erase _ _ _).trans (if_pos rfl)) rfl
    · exact .other (hconcerns hne) (herase hne) rfl
  | @cut id' c hc =>
    by_cases hne : id' = id
    · subst hne
      exact .cut hc ((Table.get?_erase _ _ _).trans (if_pos rfl)) rfl
    · exact .other (hconcerns hne) (herase hne) rfl

omit [Remote ρ τ σ] in
/-- Nothing is done for a client that is not there. -/
theorem Service.absent (h : Service s id e s') (hnone : s.client? id = none) :
    s'.client? id = none ∧ s'.answers id = s.answers id := by
  cases h with
  | other _ hc ho => exact ⟨hc.trans hnone, ho⟩
  | receive hc ho | endInput hc ho | failInput hc ho => exact ⟨by rw [hc, hnone]; rfl, ho⟩
  | ask hc | stop hc | answer hc | leave hc | cut hc =>
    rw [hnone] at hc
    cases hc

/-- Answers that have been written stay written. -/
theorem Step.output_prefix (h : Step s e s') : s.output <+: s'.output := by
  cases h with
  | accept _ _ _ _ ho => exact ho ▸ List.prefix_refl _
  | answer => exact List.prefix_append _ _
  | _ => exact List.prefix_refl _

/-! ### What it does to the tasks -/

omit [Remote ρ τ σ] in
/-- A task that is still there when tasks have been dropped has not been touched. -/
theorem task?_foldl_abandon (ids : List TaskId) {system : System ρ τ σ} {t : Task τ σ}
    (ht : (ids.foldl System.abandon system).task? k = some t) : system.task? k = some t := by
  induction ids generalizing system with
  | nil => exact ht
  | cons id ids ih =>
    have ht' := ih ht
    rcases System.abandon_cases system id with ⟨-, hs⟩ | ⟨t', ht'', hs⟩
    · rwa [hs] at ht'
    · have htasks : (system.abandon id).tasks = system.tasks.set id none := by rw [hs]
      rw [System.task?_of_set ht'' htasks] at ht'
      split at ht'
      · cases ht'
      · exact ht'

/-- A task behind an event was there before as it is, has taken its next step, or has begun. -/
theorem Step.task?_cases (h : Step s e s') {t' : Task τ σ} (ht' : s'.system.task? k = some t') :
    s.system.task? k = some t' ∨
      (∃ t, s.system.task? k = some t ∧
        t.step k s.system.gateway = some (s'.system.gateway, t')) ∨
      k = s.system.tasks.length := by
  have hbegin {op : Operation σ} (ht' : (s.system.begin op).task? k = some t') :
      s.system.task? k = some t' ∨ k = s.system.tasks.length := by
    rw [System.task?_begin] at ht'
    split at ht'
    · next hk => exact .inr hk
    · exact .inl ht'
  cases h with
  | accept _ _ hc ha ho hf ht =>
    rw [System.task?, ht] at ht'
    exact .inl ht'
  | turnAway | receive | endInput | failInput | stopReading | answer | leave | alter | withdraw
  | stop | finish => exact .inl ht'
  | ask | drain => exact (hbegin ht').imp_right .inr
  | cut => exact .inl (task?_foldl_abandon _ ht')
  | @advance id system he =>
    rcases System.task?_cases (e := .advance id) he ht' with h | ⟨t, -, ht, hstep⟩ | ⟨op, ha, -⟩
    · exact .inl h
    · exact .inr (.inl ⟨t, ht, hstep⟩)
    · cases ha

omit [Remote ρ τ σ] in
theorem length_tasks_foldl_abandon (ids : List TaskId) (system : System ρ τ σ) :
    (ids.foldl System.abandon system).tasks.length = system.tasks.length := by
  induction ids generalizing system with
  | nil => rfl
  | cons id ids ih =>
    rw [List.foldl_cons, ih]
    rcases System.abandon_cases system id with ⟨-, hs⟩ | ⟨t, -, hs⟩
    · rw [hs]
    · rw [hs, List.length_set]

/-- What is configured stays so, and numbers are given once. -/
structure Ages (s s' : Server ρ τ σ) : Prop where
  config : s'.config = s.config
  accepted : s.accepted ≤ s'.accepted
  tasks : s.system.tasks.length ≤ s'.system.tasks.length

theorem Step.ages (h : Step s e s') : Ages s s' := by
  cases h with
  | accept _ _ hc ha ho hf ht => exact ⟨hf, by omega, Nat.le_of_eq (by rw [ht])⟩
  | turnAway | receive | endInput | failInput | stopReading | answer | leave | alter | withdraw
  | stop | finish => exact ⟨rfl, Nat.le_refl _, Nat.le_refl _⟩
  | ask | drain => exact ⟨rfl, Nat.le_refl _, by simp [System.begin]⟩
  | cut => exact ⟨rfl, Nat.le_refl _, Nat.le_of_eq (length_tasks_foldl_abandon _ _).symm⟩
  | @advance id system he =>
    exact ⟨rfl, Nat.le_refl _, System.length_tasks_le (e := .advance id) he⟩

omit [Remote ρ τ σ] in
theorem withdrawn_foldl_abandon (ids : List TaskId) (system : System ρ τ σ) :
    (ids.foldl System.abandon system).gateway.workers.withdrawn =
      system.gateway.workers.withdrawn := by
  induction ids generalizing system with
  | nil => rfl
  | cons id ids ih =>
    rw [List.foldl_cons, ih]
    rcases System.abandon_cases system id with ⟨-, hs⟩ | ⟨t, -, hs⟩
    · rw [hs]
    · rw [hs]
      exact Task.withdrawn_abandon id t system.gateway

/-- Nothing else withdraws permits. -/
theorem Step.withdrawn (h : Step s e s') (hw : s'.system.gateway.workers.withdrawn = true) :
    s.system.gateway.workers.withdrawn = true ∨ e = .withdraw := by
  cases h with
  | accept _ _ _ _ _ _ _ hworkers =>
    rw [hworkers] at hw
    exact .inl hw
  | turnAway | receive | endInput | failInput | ask | stopReading | answer | leave | alter | stop
  | drain | finish => exact .inl hw
  | cut =>
    refine .inl ?_
    rw [← hw]
    exact (withdrawn_foldl_abandon _ _).symm
  | advance he =>
    obtain ⟨t, t', -, hstep, -⟩ := System.advance_cases he
    rw [← Task.withdrawn_step hstep]
    exact .inl hw
  | withdraw => exact .inr rfl

/-! ### Runs -/

/-- A server that a run passes through. -/
abbrev Visits : Server ρ τ σ → List (Event ρ) → Server ρ τ σ → Prop :=
  AttributeGateway.Visits after?

/-- An event of a run, with the server before it and the one behind it. -/
abbrev Occurs : Server ρ τ σ → List (Event ρ) → Server ρ τ σ → Event ρ → Server ρ τ σ → Prop :=
  AttributeGateway.Occurs after?

/-- The server behind events that can happen one after the other. -/
abbrev behind (s : Server ρ τ σ) (es : List (Event ρ)) : Server ρ τ σ :=
  AttributeGateway.behind after? s es

/-- What every step preserves holds at the end of a run if it holds at the beginning. -/
theorem Run.preserves {I : Server ρ τ σ → Prop} (h : Run s es s')
    (hI : ∀ {u e u'}, I u → Step u e u' → I u') (hs : I s) : I s' :=
  AttributeGateway.Run.preserves h (fun hu he => hI hu (step_of_after? he)) hs

theorem Run.ages (h : Run s es s') : Ages s s' := by
  refine h.preserves (fun {u e u'} hu hstep => ?_) ⟨rfl, Nat.le_refl _, Nat.le_refl _⟩
  have hages := hstep.ages
  exact ⟨hages.config.trans hu.config, Nat.le_trans hu.accepted hages.accepted,
    Nat.le_trans hu.tasks hages.tasks⟩

/-- Permits that have been withdrawn were so before, or somebody has asked for it. -/
theorem Run.withdrawn (h : Run s es s') (hw : s'.system.gateway.workers.withdrawn = true) :
    s.system.gateway.workers.withdrawn = true ∨ .withdraw ∈ es := by
  induction h with
  | nil => exact .inl hw
  | snoc _ he ih =>
    rcases (step_of_after? he).withdrawn hw with hw | rfl
    · exact (ih hw).imp_right (List.mem_append_left _)
    · exact .inr (List.mem_append_right _ (List.mem_singleton_self _))

theorem Run.answers_prefix (h : Run s es s') (id : ClientId) : s.answers id <+: s'.answers id := by
  have houtput : s.output <+: s'.output := by
    refine h.preserves (I := fun u => s.output <+: u.output) ?_ (List.prefix_refl _)
    exact fun hu hstep => hu.trans hstep.output_prefix
  exact (houtput.filter _).map _

/-- A number that has not been given to a client has no connection and no answers. -/
def Fresh (s : Server ρ τ σ) : Prop :=
  ∀ id, s.accepted < id → s.client? id = none ∧ s.answers id = []

theorem Fresh.step (hf : Fresh s) (h : Step s e s') : Fresh s' := by
  intro id hid
  have hlt : s.accepted < id := Nat.lt_of_le_of_lt h.ages.accepted hid
  obtain ⟨hnone, hanswers⟩ := hf id hlt
  by_cases hnew : e = .connect ∧ id = s.accepted + 1
  · obtain ⟨rfl, rfl⟩ := hnew
    cases h with
    | accept _ _ hc ha => exact absurd hid (by rw [ha]; exact Nat.lt_irrefl _)
    | turnAway => exact ⟨hnone, hanswers⟩
  · rw [not_and] at hnew
    obtain ⟨hc, ho⟩ := (h.service hnew).absent hnone
    exact ⟨hc, ho.trans hanswers⟩

omit [Remote ρ τ σ] in
/-- A server begins without clients, and with all its permits. -/
theorem eq_of_start? {config : Config} {remote : ρ} {s₀ : Server ρ τ σ}
    (h₀ : start? config remote = some s₀) :
    s₀ = {
      config
      system := { gateway := { remote, workers := ⟨config.workers.toNat, [], [], false⟩ } }
      places := config.maxClients.toNat } := by
  rw [start?] at h₀
  split at h₀
  · exact (Option.some.inj h₀).symm
  · cases h₀

theorem fresh_of_run {config : Config} {remote : ρ} {s₀ : Server ρ τ σ}
    (h₀ : start? config remote = some s₀) (hr : Run s₀ es s) : Fresh s := by
  refine hr.preserves (fun hf h => hf.step h) fun id _ => ?_
  obtain rfl := eq_of_start? h₀
  exact ⟨rfl, rfl⟩

end Server

end AttributeGateway
