import AttributeGateway.Proofs.Gateway.Tending
import AttributeGateway.Proofs.Server.Pipelining

/-!
# What a stopped server leaves behind

A server that has been told to stop cuts its clients off, wherever the tasks for their lines stand,
and then empties the cache, closing every holder that it finds there. So a session is left behind
only if its holder was not in the cache any more: somebody had taken it out to close it, and was
dropped before that was done, while waiting for the lock of the holder.

* `Drives` — what an event of a server does to its tasks.
* `Flying` — every task that has not come to its result answers a line of a client that is there, or
  empties the cache.
* `Activity.Empties` — how far a task that empties the cache has come.
* `sessions_of_stopped` — when a server has stopped, its cache is empty, and each session that a
  holder had has been closed, unless a client was cut off while a task for one of its lines was
  closing the holder.
-/

namespace AttributeGateway

/-! ### Emptying the cache -/

namespace Activity

variable {ρ τ σ : Type} {g g' : Gateway ρ σ} {act act' : Activity τ σ} {id : TaskId}

/-- What a task that empties the cache has still to do: the URLs that are cached are those that it
has noted. -/
def Empties (g : Gateway ρ σ) : Activity τ σ → Prop
  | .beginning .drain => True
  | .sweeping urls | .clearing _ urls => ∀ u h, g.cached? u = some h → u ∈ urls
  | .finished _ => ∀ u, g.cached? u = none
  | _ => False

theorem Empties.congr (he : act.Empties g) (hc : g'.cache = g.cache) : act.Empties g' := by
  have hcached : ∀ u, g'.cached? u = g.cached? u := fun u => by
    rw [Gateway.cached?, Gateway.cached?, hc]
  cases act with
  | beginning op => cases op <;> trivial
  | sweeping urls | clearing a urls => exact fun u h hu => he u h ((hcached u).symm.trans hu)
  | finished r => exact fun u => (hcached u).trans (he u)
  | _ => exact he.elim

/-- A holder that has been taken out of the cache need not be looked for any more. -/
theorem empties_evict {url : String} {urls : List String} {o : Option HolderId}
    (he : ∀ u h, g.cached? u = some h → u ∈ url :: urls) (hevict : g.evict url = (o, g')) :
    ∀ u h, g'.cached? u = some h → u ∈ urls := by
  cases hevict
  intro u h hu
  have hu := (g.cached?_evict url u).symm.trans hu
  split at hu
  · cases hu
  · next hne => exact (List.mem_cons.1 (he u h hu)).resolve_left hne

/-- **A task that empties the cache goes on until nothing is cached.** -/
theorem Empties.step [Remote ρ τ σ] (he : act.Empties g) (h : act.step id g = some (g', act')) :
    act'.Empties g' := by
  cases ha : act.access? with
  | some a =>
    obtain ⟨n, hn, rfl⟩ := step_access ha h
    have hcache := hn.touches.cache
    cases act with
    | clearing b urls =>
      have hurls : ∀ u h, g'.cached? u = some h → u ∈ urls := he.congr hcache
      cases n <;> exact hurls
    | requesting | accessing => exact he.elim
    | _ => cases ha
  | none =>
    have hq := quiet_of_step ha h
    generalize hnext : (g', act') = next at hq
    cases hq with
    | drain =>
      cases hnext
      exact fun u h hu => Table.mem_keys_of_get? hu
    | swept =>
      cases hnext
      intro u
      cases hu : g.cached? u with
      | none => rfl
      | some h => exact absurd (he u h hu) List.not_mem_nil
    | clear ha hevict | skip ha hevict =>
      cases hnext
      rcases ha with rfl | ⟨rfl, -⟩
      · exact empties_evict he hevict
      · exact he.elim
    | _ => exact he.elim

end Activity

namespace Server

variable {ρ τ σ : Type} [Remote ρ τ σ] {s s' : Server ρ τ σ} {id : ClientId} {k : TaskId}
  {h : HolderId} {e : Event ρ}

/-! ### What an event does to the tasks -/

/-- What an event of a server does to its tasks, apart from counting. -/
inductive Drives (s : Server ρ τ σ) : Event ρ → Server ρ τ σ → Prop where
  /-- Nothing. -/
  | rest {e : Event ρ} {s' : Server ρ τ σ} (hg : s.system.gateway.Counts s'.system.gateway)
      (ht : s'.system.tasks = s.system.tasks) : Drives s e s'
  /-- A task begins or takes its next step, or something happens outside. -/
  | event {e : Event ρ} {s' : Server ρ τ σ} {e' : AttributeGateway.Event ρ σ}
      (he : s.system.after? e' = some s'.system) (hin : ∀ url, e' ≠ .addHolder url)
      (hadvance : ∀ k, e' = .advance k → e = .advance k) (habandon : ∀ k, e' ≠ .abandon k) :
    Drives s e s'
  /-- The tasks of a client are dropped. -/
  | cut {id : ClientId} {c : Connection} {s' : Server ρ τ σ} (hc : s.client? id = some c)
      (hg : (c.inFlight.foldl System.abandon s.system).gateway.Counts s'.system.gateway)
      (ht : s'.system.tasks = (c.inFlight.foldl System.abandon s.system).tasks) :
    Drives s (.cut id) s'

theorem Step.drives (h : Step s e s') : Drives s e s' := by
  cases h with
  | accept _ _ _ _ _ _ ht _ hg => exact .rest hg ht
  | turnAway | receive | endInput | failInput | stopReading | answer | stop | finish =>
    exact .rest (.refl _) rfl
  | leave => exact .rest ⟨rfl, rfl, rfl⟩ rfl
  | ask => exact .event (show s.system.after? (.begin _) = _ from rfl) nofun nofun nofun
  | drain => exact .event (show s.system.after? (.begin _) = _ from rfl) nofun nofun nofun
  | cut hc => exact .cut hc ⟨rfl, rfl, rfl⟩ rfl
  | @advance k system ha =>
    refine .event (show s.system.after? (.advance k) = _ from ha) nofun (fun k' hk => ?_) nofun
    cases hk
    rfl
  | alter change =>
    exact .event (show s.system.after? (.alter change) = _ from rfl) nofun nofun nofun
  | withdraw => exact .event (show s.system.after? .withdraw = _ from rfl) nofun nofun nofun

end Server

/-! ### Dropping tasks, and counting -/

namespace System

variable {ρ τ σ : Type} {s s' : System ρ τ σ} {h : HolderId} {x : σ} {id k : TaskId}

theorem task?_of_tasks (ht : s'.tasks = s.tasks) (k : TaskId) : s'.task? k = s.task? k := by
  rw [task?, task?, ht]

theorem access?_of_tasks (ht : s'.tasks = s.tasks) (k : TaskId) : s'.access? k = s.access? k := by
  rw [access?, access?, task?_of_tasks ht]

theorem Tended.of_counts (hh : Tended h s) (hg : s.gateway.Counts s'.gateway)
    (ht : s'.tasks = s.tasks) : Tended h s' := by
  have hholder : s'.gateway.holder h = s.gateway.holder h := by
    rw [Gateway.holder, Gateway.holder, hg.holders]
  rcases hh with hc | ⟨k, a, ha, hclose⟩ | ⟨hl, hno⟩
  · refine .inl ?_
    rw [Gateway.cached?, hg.cache, Gateway.endpoint, hholder]
    exact hc
  · exact .inr (.inl ⟨k, a, (access?_of_tasks ht k).trans ha, hclose⟩)
  · refine .inr (.inr ⟨by rw [Gateway.link, hholder]; exact hl, fun k x hk => hno k x ?_⟩)
    obtain ⟨a, ha, hst⟩ := hk
    exact ⟨a, (access?_of_tasks ht k).symm.trans ha, hst⟩

theorem Held.of_counts (hh : Held h x s) (hg : s.gateway.Counts s'.gateway)
    (ht : s'.tasks = s.tasks) : Held h x s' := by
  refine hh.imp (fun hk => ?_) fun ⟨k, a, ha, hst⟩ => ⟨k, a, (access?_of_tasks ht k).trans ha, hst⟩
  rw [Gateway.link, Gateway.holder, hg.holders]
  exact hk

theorem Disciplined.of_counts [Remote ρ τ σ] (hs : Disciplined s) (hg : s.gateway.Counts s'.gateway)
    (ht : s'.tasks = s.tasks) : Disciplined s' :=
  hs.quiet hg.evolves.lock hg.evolves.link fun k => .inl (access?_of_tasks ht k)

section
variable [Remote ρ τ σ]

theorem disciplined_foldl_abandon (hs : Disciplined s) (ids : List TaskId) :
    Disciplined (ids.foldl abandon s) := by
  induction ids generalizing s with
  | nil => exact hs
  | cons id ids ih => exact ih (hs.change (change_abandon s id))

omit [Remote ρ τ σ] in
theorem task?_foldl_abandon_of_mem {ids : List TaskId} (hk : k ∈ ids) (s : System ρ τ σ) :
    (ids.foldl abandon s).task? k = none := by
  induction ids generalizing s with
  | nil => cases hk
  | cons id ids ih =>
    rcases List.mem_cons.1 hk with rfl | hk
    · rw [List.foldl_cons]
      cases ht : (ids.foldl abandon (s.abandon k)).task? k with
      | none => rfl
      | some t =>
        have ht' := Server.task?_foldl_abandon _ ht
        have hs := (gone_abandon (Server.task?_foldl_abandon [k] ht')).1
        rw [hs] at ht'
        cases ht'
    · exact ih hk _

omit [Remote ρ τ σ] in
theorem closingBy_of_abandon (hc : ClosingBy h (s.abandon id) k) : ClosingBy h s k := by
  obtain ⟨a, ha, hclose⟩ := hc
  obtain ⟨t, ht, hat⟩ := Option.bind_eq_some_iff.1 ha
  exact ⟨a, (access?_of_task? (Server.task?_foldl_abandon [id] ht)).trans hat, hclose⟩

/-- When tasks are dropped, a holder that somebody looks after is looked after still, unless one of
them was closing it. -/
theorem tended_foldl_abandon (hs : Disciplined s) {ids : List TaskId}
    (ht : s.gateway.Made h → Tended h s) (hm : (ids.foldl abandon s).gateway.Made h) :
    Tended h (ids.foldl abandon s) ∨ ∃ k ∈ ids, ClosingBy h s k := by
  induction ids generalizing s with
  | nil => exact .inl (ht hm)
  | cons id ids ih =>
    have he : s.after? (.abandon id) = some (s.abandon id) := rfl
    by_cases hc : ClosingBy h s id
    · exact .inr ⟨id, List.mem_cons_self, hc⟩
    · refine (ih (hs.change (change_abandon s id)) (fun hm' => ?_) hm).imp_right ?_
      · refine (tended_after? hs he nofun ht hm').resolve_right ?_
        rintro ⟨id', hid, hc'⟩
        cases hid
        exact hc hc'
      · rintro ⟨k, hk, hck⟩
        exact ⟨k, List.mem_cons_of_mem _ hk, closingBy_of_abandon hck⟩

/-- When tasks are dropped, a session that somebody has is had still, unless one of them was closing
its holder. -/
theorem held_foldl_abandon (hs : Disciplined s) {ids : List TaskId} (hh : Held h x s) :
    Held h x (ids.foldl abandon s) ∨ ∃ k ∈ ids, ClosingBy h s k := by
  induction ids generalizing s with
  | nil => exact .inl hh
  | cons id ids ih =>
    have he : s.after? (.abandon id) = some (s.abandon id) := rfl
    rcases held_after? hs he hh with hh' | ⟨id', hid, he' | he'⟩
    · refine (ih (hs.change (change_abandon s id)) hh').imp_right ?_
      rintro ⟨k, hk, hck⟩
      exact ⟨k, List.mem_cons_of_mem _ hk, closingBy_of_abandon hck⟩
    · cases he'
    · cases he'
      exact .inr ⟨id, List.mem_cons_self, hid.closingBy hs⟩

end

end System

namespace Server

variable {ρ τ σ : Type} [Remote ρ τ σ] {s s' u u' : Server ρ τ σ} {id : ClientId} {k : TaskId}
  {h : HolderId} {x : σ} {e : Event ρ} {es : List (Event ρ)}

/-! ### What becomes of a session -/

/-- A task closes the session of a holder. -/
def Closes (h : HolderId) (x : σ) (s : Server ρ τ σ) (e : Event ρ) (s' : Server ρ τ σ) : Prop :=
  ∃ k, e = .advance k ∧ System.EndingBy h x s.system k ∧
    s'.system.gateway.remote = (Remote.close x s.system.gateway.remote).2

/-- A client is cut off while a task for one of its lines is closing a holder. -/
def Drops (h : HolderId) (s : Server ρ τ σ) (e : Event ρ) : Prop :=
  ∃ id c k, e = .cut id ∧ s.client? id = some c ∧ k ∈ c.inFlight ∧ System.ClosingBy h s.system k

theorem Drives.disciplined (hd : Drives s e s') (hs : System.Disciplined s.system) :
    System.Disciplined s'.system := by
  cases hd with
  | rest hg ht => exact hs.of_counts hg ht
  | event he => exact hs.change (System.change_of_after? he)
  | cut _ hg ht => exact (System.disciplined_foldl_abandon hs _).of_counts hg ht

/-- A holder that somebody looks after is looked after still, unless a client is cut off. -/
theorem Drives.tended (hd : Drives s e s') (hs : System.Disciplined s.system)
    (ht : s.system.gateway.Made h → System.Tended h s.system)
    (hm : s'.system.gateway.Made h) : System.Tended h s'.system ∨ Drops h s e := by
  cases hd with
  | rest hg hsame =>
    rw [Gateway.Made, hg.holders] at hm
    exact .inl ((ht hm).of_counts hg hsame)
  | event he hin _ habandon =>
    refine .inl ((System.tended_after? hs he hin ht hm).resolve_right ?_)
    rintro ⟨k, hk, -⟩
    exact habandon k hk
  | cut hc hg hsame =>
    rw [Gateway.Made, hg.holders] at hm
    refine (System.tended_foldl_abandon hs ht hm).imp (·.of_counts hg hsame) ?_
    rintro ⟨k, hk, hclosing⟩
    exact ⟨_, _, k, rfl, hc, hk, hclosing⟩

/-- A session that somebody has is had still, unless it is closed or a client is cut off. -/
theorem Drives.held (hd : Drives s e s') (hs : System.Disciplined s.system)
    (hh : System.Held h x s.system) :
    System.Held h x s'.system ∨ Closes h x s e s' ∨ Drops h s e := by
  cases hd with
  | rest hg hsame => exact .inl (hh.of_counts hg hsame)
  | event he _ hadvance habandon =>
    refine (System.held_after? hs he hh).imp_right ?_
    rintro ⟨k, hk, rfl | rfl⟩
    · exact .inl ⟨k, hadvance k rfl, hk, hk.closes he⟩
    · exact absurd rfl (habandon k)
  | cut hc hg hsame =>
    refine (System.held_foldl_abandon hs hh).imp (·.of_counts hg hsame) ?_
    rintro ⟨k, hk, hclosing⟩
    exact .inr ⟨_, _, k, rfl, hc, hk, hclosing⟩

/-! ### Tasks that are under way -/

/-- Every task that has not come to its result answers a line of a client that is there, or empties
the cache. -/
def Flying (s : Server ρ τ σ) : Prop :=
  ∀ k t, s.system.task? k = some t → t.activity.result? = none →
    (∃ id c, s.client? id = some c ∧ k ∈ c.inFlight) ∨ s.phase = .draining k

/-- A line that is read leaves in flight what was. -/
theorem inFlight_pull {c c' : Connection} {line : Option String}
    (hp : c.pull? = some (line, c')) : c'.inFlight = c.inFlight := by
  rw [Connection.pull?] at hp
  split at hp
  · cases hp
    rfl
  · split at hp <;> cases hp
    rfl
  · cases hp
    rfl

/-- A task that begins answers a line of a client, or empties the cache. -/
theorem Step.begun (h : Step s e s') {t : Task τ σ}
    (ht : s'.system.task? s.system.tasks.length = some t) :
    (∃ id c, s'.client? id = some c ∧ s.system.tasks.length ∈ c.inFlight) ∨
      s'.phase = .draining s.system.tasks.length := by
  have hnew : s'.system.tasks.length ≠ s.system.tasks.length := by
    intro hlen
    exact absurd (System.lt_of_task? ht) (by rw [hlen]; exact Nat.lt_irrefl _)
  cases h with
  | accept _ _ _ _ _ _ htasks => exact absurd (congrArg List.length htasks) hnew
  | turnAway | receive | endInput | failInput | stopReading | answer | leave | alter | withdraw
  | stop | finish => exact absurd rfl hnew
  | cut => exact absurd (length_tasks_foldl_abandon _ _) hnew
  | @advance k system ha =>
    obtain ⟨t, t', -, -, hs⟩ := System.advance_cases ha
    exact absurd (by rw [hs, List.length_set]) hnew
  | @ask id c c' line hc hr hp =>
    refine .inl ⟨id, _, (Table.get?_insert _ _ _ _).trans (if_pos rfl), ?_⟩
    exact List.mem_append_right _ (List.mem_singleton_self _)
  | drain => exact .inr rfl

/-- A task that is under way stays in flight until it is dropped. -/
theorem Step.inFlight (h : Step s e s') (hf : Fresh s) {c : Connection}
    (hc : s.client? id = some c) (hk : k ∈ c.inFlight) (hun : s.system.result? k = none)
    (hthere : s'.system.task? k ≠ none) : ∃ c', s'.client? id = some c' ∧ k ∈ c'.inFlight := by
  have hid : e = .connect → id ≠ s.accepted + 1 := by
    rintro - rfl
    rw [(hf _ (Nat.lt_succ_self _)).1] at hc
    cases hc
  have hkeeps {f : Connection → Connection} (hc' : s'.client? id = (s.client? id).map f)
      (hflight : (f c).inFlight = c.inFlight) : ∃ c', s'.client? id = some c' ∧ k ∈ c'.inFlight :=
    ⟨f c, by rw [hc', hc]; rfl, by rwa [hflight]⟩
  cases h.service hid with
  | other _ hc' => exact ⟨c, hc'.trans hc, hk⟩
  | receive hc' =>
    refine hkeeps hc' ?_
    rw [Connection.receive]
    split <;> rfl
  | endInput hc' | failInput hc' => exact hkeeps hc' rfl
  | ask hc₁ hr hp hc' =>
    cases hc.symm.trans hc₁
    exact ⟨_, hc', List.mem_append_left _ (by rwa [inFlight_pull hp])⟩
  | stop hc₁ hr hp hc' =>
    cases hc.symm.trans hc₁
    exact ⟨_, hc', by rwa [inFlight_pull hp]⟩
  | @answer _ k₁ r _ hc₁ hk₁ hr hc' =>
    cases hc.symm.trans hc₁
    refine ⟨_, hc', ?_⟩
    -- What is answered has come to its result.
    have hne : k ≠ k₁ := by
      rintro rfl
      rw [hun] at hr
      cases hr
    cases hflight : c.inFlight with
    | nil =>
      rw [hflight] at hk₁
      cases hk₁
    | cons k₂ rest =>
      rw [hflight] at hk hk₁
      cases hk₁
      rw [Connection.settle, hflight]
      exact (List.mem_cons.1 hk).resolve_left hne
  | leave hc₁ hd =>
    cases hc.symm.trans hc₁
    rw [Connection.isDone, Bool.and_eq_true, List.isEmpty_iff] at hd
    rw [hd.2] at hk
    cases hk
  | cut =>
    cases h with
    | cut hc₁ =>
      cases hc.symm.trans hc₁
      exact absurd (System.task?_foldl_abandon_of_mem hk s.system) hthere

theorem Flying.step (hfl : Flying s) (hf : Fresh s) (h : Step s e s') : Flying s' := by
  intro k t' ht' hun'
  -- A task that is under way behind the event was so before, unless it has just begun.
  have hcases : k = s.system.tasks.length ∨
      ∃ t, s.system.task? k = some t ∧ t.activity.result? = none := by
    rcases h.task?_cases ht' with ht | ⟨t, ht, hstep⟩ | hnew
    · exact .inr ⟨t', ht, hun'⟩
    · refine .inr ⟨t, ht, ?_⟩
      cases hact : t.activity with
      | finished r =>
        rw [Task.step_finished hact] at hstep
        cases hstep
      | _ => rfl
    · exact .inl hnew
  rcases hcases with rfl | ⟨t, ht, hun⟩
  · exact h.begun ht'
  · have hresult : s.system.result? k = none := by rw [System.result?, ht]; exact hun
    rcases hfl k t ht hun with ⟨id, c, hc, hk⟩ | hph
    · exact .inl ⟨id, h.inFlight hf hc hk hresult (by rw [ht']; exact Option.some_ne_none _)⟩
    · refine .inr ?_
      cases h with
      | accept hph' | turnAway hph' | stop hph' =>
        rw [hph] at hph'
        cases hph'
      | drain hph' =>
        rw [hph] at hph'
        cases hph'.1
      | finish hph' hr =>
        rw [hph] at hph'
        cases hph'
        rw [hresult] at hr
        cases hr
      | _ => exact hph

/-! ### Stopping -/

/-- How far a server has come with emptying its cache. -/
structure Stopping (s : Server ρ τ σ) : Prop where
  /-- Numbers are given to clients once. -/
  fresh : Fresh s
  /-- Every task that is under way answers a line of a client, or empties the cache. -/
  flying : Flying s
  /-- When the cache is emptied, all clients are gone. -/
  gone : ∀ {k}, s.phase = .draining k ∨ s.phase = .stopped → ∀ id, s.client? id = none
  /-- The task that empties the cache has noted what is cached. -/
  draining : ∀ {k}, s.phase = .draining k →
    ∃ t, s.system.task? k = some t ∧ t.activity.Empties s.system.gateway
  /-- In the end nothing is cached. -/
  stopped : s.phase = .stopped → ∀ u, s.system.gateway.cached? u = none

omit [Remote ρ τ σ] in
/-- When all clients are gone, only the task that empties the cache is under way. -/
theorem Stopping.alone (hs : Stopping s) (hph : s.phase = .draining k ∨ s.phase = .stopped)
    {k' : TaskId} {t : Task τ σ} (ht : s.system.task? k' = some t)
    (hun : t.activity.result? = none) : k' = k ∧ s.phase = .draining k := by
  rcases hs.flying k' t ht hun with ⟨id, c, hc, -⟩ | hph'
  · rw [hs.gone hph id] at hc
    cases hc
  · rcases hph with hph | hph
    · cases hph'.symm.trans hph
      exact ⟨rfl, hph⟩
    · cases hph'.symm.trans hph

/-- When all clients are gone, the task that empties the cache goes on, or the server stops once it
is done; nothing else touches tasks or the cache. -/
theorem Stopping.late (hs : Stopping s) (h : Step s e s')
    (hph : s.phase = .draining k ∨ s.phase = .stopped) :
    s'.system.tasks = s.system.tasks ∧ s'.system.gateway.cache = s.system.gateway.cache ∧
        (s'.phase = s.phase ∨
          s.phase = .draining k ∧ (s.system.result? k).isSome ∧ s'.phase = .stopped) ∨
      s.phase = .draining k ∧ s'.phase = s.phase ∧ s.system.advance? k = some s'.system := by
  have hserving {p : Phase} (hp : s.phase = p) (hd : ∀ k, p ≠ .draining k) (hst : p ≠ .stopped) :
      False := by
    rcases hph with hph | hph
    · exact hd k (hp.symm.trans hph)
    · exact hst (hp.symm.trans hph)
  have hnone {id : ClientId} {c : Connection} (hc : s.client? id = some c) : False := by
    rw [hs.gone hph id] at hc
    cases hc
  cases h with
  | accept hp | turnAway hp | stop hp => exact (hserving hp nofun nofun).elim
  | drain hp => exact (hserving hp.1 nofun nofun).elim
  | receive | endInput | failInput | alter | withdraw => exact .inl ⟨rfl, rfl, .inl rfl⟩
  | ask hc | stopReading hc | answer hc | leave hc | cut hc => exact (hnone hc).elim
  | @advance k' system ha =>
    obtain ⟨t, t', ht, hstep, -⟩ := System.advance_cases ha
    have hun : t.activity.result? = none := by
      cases hact : t.activity with
      | finished r =>
        rw [Task.step_finished hact] at hstep
        cases hstep
      | _ => rfl
    obtain ⟨rfl, hp⟩ := hs.alone hph ht hun
    exact .inr ⟨hp, rfl, ha⟩
  | @finish k' hp hr =>
    rcases hph with hph | hph
    · cases hp.symm.trans hph
      exact .inl ⟨rfl, rfl, .inr ⟨hph, hr, rfl⟩⟩
    · cases hp.symm.trans hph

/-- The cache is emptied only when all clients are gone. -/
theorem Step.before_late (h : Step s e s') (hph : s'.phase = .draining k ∨ s'.phase = .stopped) :
    (∃ k, s.phase = .draining k ∨ s.phase = .stopped) ∨
      s.clients.isEmpty ∧ s' = { s with
        phase := .draining s.system.tasks.length, system := s.system.begin .drain } := by
  cases h with
  | drain hp => exact .inr ⟨hp.2, rfl⟩
  | accept _ _ _ _ _ _ _ _ _ hp' =>
    rw [hp'] at hph
    exact .inl ⟨k, hph⟩
  | stop hp => rcases hph with hph | hph <;> cases hph
  | finish hp => exact .inl ⟨_, .inl hp⟩
  | _ => exact .inl ⟨k, hph⟩

theorem Stopping.step (hs : Stopping s) (h : Step s e s') : Stopping s' where
  fresh := hs.fresh.step h
  flying := hs.flying.step hs.fresh h
  gone {k} hph id := by
    rcases h.before_late hph with ⟨k', hk'⟩ | ⟨hempty, rfl⟩
    · have hid : e = .connect → id ≠ s.accepted + 1 := by
        rintro rfl
        exfalso
        cases h with
        | accept hp | turnAway hp => rcases hk' with hk' | hk' <;> cases hp.symm.trans hk'
      exact ((h.service hid).absent (hs.gone hk' id)).1
    · exact Table.isEmpty_iff.1 hempty id
  draining {k} hph := by
    rcases h.before_late (.inl hph) with ⟨k', hk'⟩ | ⟨-, rfl⟩
    · rcases hs.late h hk' with ⟨ht, hc, hp | ⟨-, -, hp⟩⟩ | ⟨hp, hp', ha⟩
      · obtain ⟨t, ht', he⟩ := hs.draining (hp.symm.trans hph)
        exact ⟨t, by rwa [System.task?, ht], he.congr hc⟩
      · cases hp.symm.trans hph
      · cases (hp'.trans hp).symm.trans hph
        obtain ⟨t, t', ht, hstep, htasks⟩ := System.advance_cases ha
        obtain ⟨t₁, ht₁, he⟩ := hs.draining hp
        cases ht.symm.trans ht₁
        refine ⟨t', (System.task?_of_set ht htasks k).trans (if_pos rfl), ?_⟩
        rcases Task.step_cases hstep with ⟨line, hline, -⟩ | ⟨g, hact, hg⟩
        · rw [hline] at he
          exact he.elim
        · exact (he.step hact).congr (by rw [hg])
    · cases hph
      exact ⟨_, (System.task?_begin _ _ _).trans (if_pos rfl), trivial⟩
  stopped hph u := by
    rcases h.before_late (k := 0) (.inr hph) with ⟨k, hk⟩ | ⟨-, rfl⟩
    · rcases hs.late h hk with ⟨-, hc, hp | ⟨hp, hr, -⟩⟩ | ⟨hp, hp', -⟩
      · rw [Gateway.cached?, hc]
        exact hs.stopped (hp.symm.trans hph) u
      · obtain ⟨t, ht, he⟩ := hs.draining hp
        rw [System.result?, ht, Option.bind_some] at hr
        rw [Gateway.cached?, hc]
        cases hact : t.activity with
        | finished r =>
          rw [hact] at he
          exact he u
        | _ =>
          rw [hact] at hr
          cases hr
      · cases (hp'.trans hp).symm.trans hph
    · cases hph

theorem stopping_of_run {config : Config} {remote : ρ} {s₀ : Server ρ τ σ}
    (h₀ : start? config remote = some s₀) (hr : Run s₀ es s) : Stopping s := by
  refine hr.preserves (fun hs h => hs.step h) ?_
  obtain rfl := eq_of_start? h₀
  refine ⟨fun id _ => ⟨rfl, rfl⟩, fun k t ht => ?_, fun h => ?_, fun h => ?_, fun h => ?_⟩
  · cases ht
  · rcases h with h | h <;> cases h
  · cases h
  · cases h

/-! ### What is left behind -/

/-- In the course of events a task has closed the session of a holder. -/
def HasClosed (s : Server ρ τ σ) (es : List (Event ρ)) (h : HolderId) (x : σ) : Prop :=
  ∃ u e u', Occurs s es u e u' ∧ Closes h x u e u'

/-- In the course of events a client has been cut off while a task for one of its lines was closing
a holder. -/
def HasDropped (s : Server ρ τ σ) (es : List (Event ρ)) (h : HolderId) : Prop :=
  ∃ u e u', Occurs s es u e u' ∧ Drops h u e

theorem HasClosed.snoc (hc : HasClosed s es h x) (e : Event ρ) : HasClosed s (es ++ [e]) h x := by
  obtain ⟨u, e', u', ho, hc⟩ := hc
  exact ⟨u, e', u', ho.snoc e, hc⟩

theorem HasDropped.snoc (hd : HasDropped s es h) (e : Event ρ) : HasDropped s (es ++ [e]) h := by
  obtain ⟨u, e', u', ho, hd⟩ := hd
  exact ⟨u, e', u', ho.snoc e, hd⟩

/-- What a run has made of holders and sessions. -/
structure Minded (s₀ : Server ρ τ σ) (es : List (Event ρ)) (s : Server ρ τ σ) : Prop where
  /-- The locks are in order. -/
  disciplined : System.Disciplined s.system
  /-- Somebody looks after a holder, unless a client was cut off. -/
  tended : ∀ {h}, s.system.gateway.Made h → System.Tended h s.system ∨ HasDropped s₀ es h
  /-- Somebody has a session, unless it has been closed or a client was cut off. -/
  held : ∀ {u h x}, Visits s₀ es u → u.system.gateway.link h = .connected x →
    System.Held h x s.system ∨ HasClosed s₀ es h x ∨ HasDropped s₀ es h

theorem Minded.snoc {s₀ : Server ρ τ σ} (hm : Minded s₀ es s) (hr : Run s₀ es s)
    (he : s.after? e = some s') : Minded s₀ (es ++ [e]) s' where
  disciplined := (step_of_after? he).drives.disciplined hm.disciplined
  tended {h} hmade := by
    by_cases hdropped : HasDropped s₀ es h
    · exact .inr (hdropped.snoc e)
    · have htended := (step_of_after? he).drives.tended hm.disciplined
        (fun hmade => (hm.tended hmade).resolve_right hdropped) hmade
      exact htended.imp_right fun hd => ⟨s, e, s', hr.occurs he, hd⟩
  held {u h x} hv hl := by
    rcases (visits_snoc hr he).1 hv with hv | rfl
    · rcases hm.held hv hl with hh | hc | hd
      · rcases (step_of_after? he).drives.held hm.disciplined hh with hh | hc | hd
        · exact .inl hh
        · exact .inr (.inl ⟨s, e, s', hr.occurs he, hc⟩)
        · exact .inr (.inr ⟨s, e, s', hr.occurs he, hd⟩)
      · exact .inr (.inl (hc.snoc e))
      · exact .inr (.inr (hd.snoc e))
    · exact .inl (.inl hl)

theorem minded_start {config : Config} {remote : ρ} {s₀ : Server ρ τ σ}
    (h₀ : start? config remote = some s₀) : Minded s₀ [] s₀ := by
  obtain rfl := eq_of_start? h₀
  refine ⟨System.disciplined_start _ _, fun hmade => absurd hmade (Nat.not_lt_zero _), ?_⟩
  rintro u h x ⟨es₁, es₂, heq, hu⟩ hl
  obtain ⟨rfl, rfl⟩ := List.append_eq_nil_iff.1 heq.symm
  cases run_iff.1 hu
  cases hl

theorem minded_of_run {config : Config} {remote : ρ} {s₀ : Server ρ τ σ}
    (h₀ : start? config remote = some s₀) (hr : Run s₀ es s) : Minded s₀ es s := by
  induction hr with
  | nil => exact minded_start h₀
  | snoc hr he ih => exact ih.snoc hr he

/-- **A server that has stopped has emptied its cache**, at whatever point of whatever run it was
told to stop; and every session that a holder ever had has been closed by a task, unless a client
was cut off while a task for one of its lines was closing the holder. -/
theorem sessions_of_stopped {config : Config} {remote : ρ} {s₀ : Server ρ τ σ}
    (h₀ : start? config remote = some s₀) (hr : Run s₀ es s) (hph : s.phase = .stopped) :
    s.system.gateway.cache.isEmpty ∧
      ∀ u h x, Visits s₀ es u → u.system.gateway.link h = .connected x →
        HasClosed s₀ es h x ∨ HasDropped s₀ es h := by
  have hstop := stopping_of_run h₀ hr
  have hm := minded_of_run h₀ hr
  have hcached := hstop.stopped hph
  -- No access is under way any more.
  have hnone : ∀ k, s.system.access? k = none := by
    intro k
    rw [System.access?]
    cases ht : s.system.task? k with
    | none => rfl
    | some t =>
      cases hact : t.activity with
      | requesting | accessing | clearing =>
        have hun : t.activity.result? = none := by rw [hact]; rfl
        cases hph.symm.trans (hstop.alone (k := 0) (.inr hph) ht hun).2
      | _ => rw [Option.bind_some, hact]; rfl
  refine ⟨Table.isEmpty_iff.2 hcached, fun u h x hv hl => ?_⟩
  rcases hm.held hv hl with (hk | ⟨k, a, ha, -⟩) | hsettled
  · -- A holder that is still connected has been forgotten.
    have hmade : s.system.gateway.Made h := by
      by_contra hno
      rw [Gateway.link_of_not_made hno] at hk
      cases hk
    rcases hm.tended hmade with (hc | ⟨k, a, ha, -⟩ | ⟨hclosed, -⟩) | hdropped
    · rw [hcached] at hc
      cases hc
    · rw [hnone] at ha
      cases ha
    · rw [hclosed] at hk
      cases hk
    · exact .inr hdropped
  · rw [hnone] at ha
    cases ha
  · exact hsettled

/-- A client asks for an attribute and goes when it has been answered. Then the server is told to
stop. -/
def servedAndStopped : List (Event Registry) :=
  List.flatten [
    [.alter (·.register "u"), .connect, .receive 1 ("GET u %s b a\n".toList.map Char.toUInt8),
      .endInput 1, .read 1],
    List.replicate 15 (.advance 0), [.read 1, .answer 1, .leave 1, .stop, .drain],
    List.replicate 6 (.advance 1), [.finish]]

theorem sessions_of_stopped_served :
    (inMemory.behind servedAndStopped).system.gateway.cache.isEmpty ∧
      HasClosed inMemory servedAndStopped 0 0 := by
  have h₀ : start? {} {} = some inMemory := by
    rw [start?, if_pos (by decide)]
    rfl
  have hr : Run inMemory servedAndStopped (inMemory.behind servedAndStopped) :=
    run_behind (by decide +kernel)
  have hv : Visits inMemory servedAndStopped (inMemory.behind (servedAndStopped.take 13)) :=
    ⟨_, _, (List.take_append_drop 13 _).symm, run_behind (by decide +kernel)⟩
  have hlink : (inMemory.behind (servedAndStopped.take 13)).system.gateway.link 0 =
      .connected 0 := by decide +kernel
  obtain ⟨hempty, hsettled⟩ := sessions_of_stopped h₀ hr (by decide +kernel)
  refine ⟨hempty, (hsettled _ 0 0 hv hlink).resolve_right ?_⟩
  -- No client has been cut off.
  rintro ⟨u, e, u', ⟨es₁, es₂, hes, -⟩, id, c, k, rfl, -⟩
  have hmem : .cut id ∈ servedAndStopped := hes ▸ List.mem_append_right _ List.mem_cons_self
  simp [servedAndStopped] at hmem

/-- A client asks for an attribute and, before that has been read, for the connection to be dropped.
The server is told to stop while the second request waits for the lock. -/
def stoppedUnderClose : List (Event Registry) :=
  List.flatten [
    [.alter (·.register "u"), .connect,
      .receive 1 ("GET u %s b a\nCLOSE u\n".toList.map Char.toUInt8), .read 1, .read 1],
    List.replicate 13 (.advance 0), List.replicate 4 (.advance 1),
    [.stop, .cut 1, .drain, .advance 2, .advance 2, .finish]]

/-- **A server that has stopped can leave a session behind**, open and with nobody to close it. -/
theorem stopped_with_open_session :
    ∃ s : Server Registry Registry.Found Nat, start? {} {} = some inMemory ∧
      Run inMemory stoppedUnderClose s ∧ s.phase = .stopped ∧
      s.system.gateway.cache.isEmpty ∧ s.system.gateway.link 0 = .connected 0 ∧
      ((s.system.gateway.remote.endpoint? "u").map Endpoint.openSessions) = some 1 := by
  have h₀ : start? {} {} = some inMemory := by
    rw [start?, if_pos (by decide)]
    rfl
  have hr : Run inMemory stoppedUnderClose (inMemory.behind stoppedUnderClose) :=
    run_behind (by decide +kernel)
  refine ⟨inMemory.behind stoppedUnderClose, h₀, hr, ?_⟩
  decide +kernel

end Server

end AttributeGateway
