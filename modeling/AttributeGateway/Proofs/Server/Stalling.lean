import AttributeGateway.Proofs.Gateway.Stalling
import AttributeGateway.Proofs.Server.Capacity

/-!
# Clients of a server some of whose endpoints do not answer

Requests that are addressed to endpoints that do not answer keep the permits that they have. Permits
are given in the order in which they are asked for, so a request for another endpoint comes to its
answer as long as fewer of those than there are permits have asked before it. When they have all
permits, everybody else waits for them.

* `requesting_of_run` — until the cache is emptied, every task answers a line.
* `present_of_run` — every line in flight has a task.
* `url?_of_asked` — a task is addressed to the URL of its line.
* `answered_beside_stalled` — a request comes to its answer after a bounded number of steps of tasks
  that are not addressed to the endpoints that do not answer.
* `Starves` — a client whose first line waits for a permit while some tasks have all of them;
  `unanswered_while_starving` says that it is not answered as long as these rest.
-/

namespace AttributeGateway

/-! ### What counting leaves as it is -/

namespace System

variable {ρ τ σ : Type} [Remote ρ τ σ] {s s' : System ρ τ σ} {total : Nat}

theorem WellKept.of_counts (hs : WellKept total s) (hg : s.gateway.Counts s'.gateway)
    (hw : s'.gateway.workers = s.gateway.workers) (ht : s'.tasks = s.tasks) :
    WellKept total s' := by
  have htask := task?_of_tasks ht
  have hgrows := hg.evolves.grows
  refine ⟨⟨hs.current.keyed.grows hgrows, fun k t hk => ?_, fun {u h} hu => ?_⟩,
    hs.disciplined.of_counts hg ht, ⟨fun h => ?_, fun {k a m} ha hm => ?_⟩,
    hs.staffed.of_entries (by rw [hw]; exact hs.staffed.sound) (by rw [hw])
      fun k => .inl (htask k).symm⟩
  · exact (hs.current.sound k t ((htask k).symm.trans hk)).grows hgrows
  · rw [Gateway.cached?, hg.cache] at hu
    rw [hg.evolves.link]
    exact hs.current.live hu
  · rw [hg.evolves.lock]
    exact hs.attended.full h
  · rw [hg.evolves.lock]
    exact hs.attended.asked ((access?_of_tasks ht k).symm.trans ha) hm

theorem Requesting.of_counts (hs : Requesting total s) (hg : s.gateway.Counts s'.gateway)
    (hw : s'.gateway.workers = s.gateway.workers) (ht : s'.tasks = s.tasks) :
    Requesting total s' := by
  have htask := task?_of_tasks ht
  refine ⟨hs.kept.of_counts hg hw ht, fun k t hk => ?_, fun k t hk => ?_⟩
  · exact hs.requests k t ((htask k).symm.trans hk)
  · exact (hs.coherent k t ((htask k).symm.trans hk)).grows hg.evolves.grows

omit [Remote ρ τ σ] in
theorem Requesting.url?_of_counts (hs : Requesting total s) (hg : s.gateway.Counts s'.gateway)
    (ht : s'.tasks = s.tasks) (k : TaskId) : s'.url? k = s.url? k := by
  rw [url?, url?, task?_of_tasks ht]
  cases hk : s.task? k with
  | none => rfl
  | some t => exact Activity.url?_grows (hs.kept.current.sound k t hk) hg.evolves.grows

end System

namespace Server

variable {ρ τ σ : Type} [Remote ρ τ σ] {s s' u : Server ρ τ σ} {id : ClientId} {k : TaskId}
  {c : Connection} {e : Event ρ} {es : List (Event ρ)} {stalled : String → Bool}

/-! ### What there is to answer -/

/-- Whether the cache has not been emptied and is not being emptied. -/
def Early (s : Server ρ τ σ) : Prop := s.phase = .serving ∨ s.phase = .closing

theorem Step.early (h : Step s e s') (ho : s'.Early) : s.Early ∧ e ≠ .drain := by
  cases h with
  | accept hph => exact ⟨.inl hph, nofun⟩
  | turnAway hph => exact ⟨.inl hph, nofun⟩
  | stop hph => exact ⟨.inl hph, nofun⟩
  | drain => rcases ho with ho | ho <;> cases ho
  | finish => rcases ho with ho | ho <;> cases ho
  | _ => exact ⟨ho, nofun⟩

/-- What the events of a system whose tasks answer lines preserve, and what does not depend on what
has been counted, the events of a server preserve until the cache is emptied. -/
theorem Step.lift_requesting {I : System ρ τ σ → Prop} {total : Nat} (h : Step s e s')
    (hd : e ≠ .drain)
    (hI : ∀ {u a u'}, System.Requesting total u → I u → u.after? a = some u' → I u')
    (hcount : ∀ {u u'}, System.Requesting total u → I u → u.gateway.Counts u'.gateway →
      u'.gateway.workers = u.gateway.workers → u'.tasks = u.tasks → I u')
    (hreq : System.Requesting total s.system) (hs : I s.system) :
    System.Requesting total s'.system ∧ I s'.system := by
  refine h.lift (I := fun u => System.Requesting total u ∧ I u) ?_ ?_ ⟨hreq, hs⟩
  · intro u a u' hu hplain hbegin he
    refine ⟨hu.1.after? (System.proper_of_isPlain hplain) he fun op hop => ?_, hI hu.1 hu.2 he⟩
    obtain ⟨line, rfl⟩ := hbegin hd op hop
    rfl
  · intro u u' hu hg hw ht
    exact ⟨hu.1.of_counts hg hw ht, hcount hu.1 hu.2 hg hw ht⟩

/-- Until the cache is emptied, every task answers a line. -/
theorem requesting_of_run {config : Config} {remote : ρ} {s₀ : Server ρ τ σ}
    (h₀ : start? config remote = some s₀) (hr : Run s₀ es s) (ho : s.Early) :
    System.Requesting config.workers.toNat s.system := by
  induction hr with
  | nil =>
    obtain rfl := eq_of_start? h₀
    exact System.requesting_start _ _
  | snoc _ he ih =>
    have hstep := step_of_after? he
    obtain ⟨ho', hne⟩ := hstep.early ho
    exact (hstep.lift_requesting (I := fun _ => True) hne (fun _ _ _ => trivial)
      (fun _ _ _ _ _ => trivial) (ih ho') trivial).1

omit [Remote ρ τ σ] in
/-- As long as there is a client, the cache is not emptied. -/
theorem Stopping.early (hs : Stopping s) (hc : s.client? id = some c) : s.Early := by
  cases hph : s.phase with
  | serving => exact .inl hph
  | closing => exact .inr hph
  | draining k =>
    rw [hs.gone (.inl hph) id] at hc
    cases hc
  | stopped =>
    rw [hs.gone (k := 0) (.inr hph) id] at hc
    cases hc

omit [Remote ρ τ σ] in
theorem task?_foldl_abandon_of_not_mem {ids : List TaskId} (hk : k ∉ ids) (s : System ρ τ σ) :
    (ids.foldl System.abandon s).task? k = s.task? k := by
  induction ids generalizing s with
  | nil => rfl
  | cons id ids ih =>
    rw [List.mem_cons, not_or] at hk
    rw [List.foldl_cons, ih hk.2]
    rcases System.abandon_cases s id with ⟨-, hs⟩ | ⟨t, ht, hs⟩
    · rw [hs]
    · have htasks : (s.abandon id).tasks = s.tasks.set id none := by rw [hs]
      rw [System.task?_of_set ht htasks, if_neg hk.1]

/-- A task is there until the client is cut off for which it answers a line. -/
theorem Step.task?_ne_none (h : Step s e s') (hk : s.system.task? k ≠ none)
    (hcut : ∀ id c, e = .cut id → s.client? id = some c → k ∉ c.inFlight) :
    s'.system.task? k ≠ none := by
  have hbegin (op : Operation σ) : (s.system.begin op).task? k ≠ none := by
    rw [System.task?_begin]
    split
    · exact Option.some_ne_none _
    · exact hk
  cases h with
  | accept _ _ _ _ _ _ ht =>
    rw [System.task?, ht]
    exact hk
  | ask | drain => exact hbegin _
  | @cut id c hc =>
    have hsame : (c.inFlight.foldl System.abandon s.system).task? k = s.system.task? k :=
      task?_foldl_abandon_of_not_mem (hcut id c rfl hc) s.system
    exact fun hnone => hk (hsame.symm.trans hnone)
  | @advance id system ha =>
    obtain ⟨t, t', ht, -, htasks⟩ := System.advance_cases ha
    change system.task? k ≠ none
    rw [System.task?_of_set ht htasks]
    split
    · exact Option.some_ne_none _
    · exact hk
  | _ => exact hk

omit [Remote ρ τ σ] in
/-- No line of one client is answered by the task for a line of another one. -/
theorem Seated.disjoint (hs : Seated s es) {id' : ClientId} {c' : Connection}
    (hc : s.client? id = some c) (hc' : s.client? id' = some c') (hne : id' ≠ id)
    (hk : k ∈ c.inFlight) : k ∉ c'.inFlight := by
  intro hk'
  have hnodup := (inFlight_perm hc).nodup_iff.1 hs.once
  refine List.disjoint_of_nodup_append hnodup hk (List.mem_flatMap.2 ⟨(id', c'), ?_, hk'⟩)
  rw [Table.mem_entries_iff, Table.get?_erase, if_neg hne]
  exact hc'

/-- Every line in flight has a task. -/
def Present (s : Server ρ τ σ) : Prop :=
  ∀ {id c k}, s.client? id = some c → k ∈ c.inFlight → s.system.task? k ≠ none

theorem Present.step (hp : Present s) (hs : Seated s es) (h : Step s e s') : Present s' := by
  intro id c' k hc' hk
  by_cases hnew : e = .connect ∧ id = s.accepted + 1
  · obtain ⟨rfl, rfl⟩ := hnew
    cases h with
    | accept _ _ hclients =>
      rw [client?, hclients, Table.get?_insert, if_pos rfl] at hc'
      cases hc'
      cases hk
    | turnAway => exact hp hc' hk
  · -- What was in flight before is so still, and no other client has it in flight.
    have hkept {c : Connection} (hc : s.client? id = some c) (hk : k ∈ c.inFlight)
        (hself : e ≠ .cut id) : s'.system.task? k ≠ none := by
      refine h.task?_ne_none (hp hc hk) fun id' c₁ he hc₁ => hs.disjoint hc hc₁ ?_ hk
      rintro rfl
      exact hself he
    cases h.service fun he hid => hnew ⟨he, hid⟩ with
    | other hne hc => exact hkept (hc.symm.trans hc') hk fun he => hne (by rw [he]; rfl)
    | receive hc | endInput hc | failInput hc =>
      obtain ⟨c, hc₁, rfl⟩ := Option.map_eq_some_iff.1 (hc.symm.trans hc')
      first
        | exact hkept hc₁ hk (by simp)
        | exact hkept hc₁ (by rwa [inFlight_receive] at hk) (by simp)
    | @ask c c₁ line _ hc hr hpull hc₁ hsystem =>
      cases hc₁.symm.trans hc'
      rcases List.mem_append.1 hk with hk | hk
      · rw [inFlight_pull hpull] at hk
        exact hkept hc hk (by simp)
      · rw [hsystem, System.task?_begin, if_pos (List.mem_singleton.1 hk)]
        exact Option.some_ne_none _
    | stop hc hr hpull hc₁ =>
      cases hc₁.symm.trans hc'
      rw [inFlight_pull hpull] at hk
      exact hkept hc hk (by simp)
    | answer hc _ _ hc₁ =>
      cases hc₁.symm.trans hc'
      exact hkept hc (List.mem_of_mem_tail hk) (by simp)
    | leave _ _ hc₁ | cut _ hc₁ => cases hc₁.symm.trans hc'

theorem present_of_run {config : Config} {remote : ρ} {s₀ : Server ρ τ σ}
    (h₀ : start? config remote = some s₀) (hr : Run s₀ es s) : Present s := by
  induction hr with
  | nil =>
    obtain rfl := eq_of_start? h₀
    exact fun hc => nomatch (show none = some _ from hc)
  | snoc hr he ih => exact ih.step (seated_of_run h₀ hr) (step_of_after? he)

/-! ### Requests for other endpoints -/

/-- A task takes a step that is not addressed to an endpoint that does not answer. -/
def Goes (stalled : String → Bool) (s : Server ρ τ σ) (e : Event ρ) : Prop :=
  ∃ k, e = .advance k ∧ s.system.isStalled stalled k = false

/-- Such steps change nothing but the system, for a bounded time. -/
theorem beside_of_run {total : Nat} (hs : System.Requesting total s.system) (hr : Run s es s')
    (hes : ∀ e ∈ es, s.Goes stalled e) :
    System.Beside stalled total s.system s'.system ∧ s'.clients = s.clients ∧
      s'.output = s.output ∧ es.length + s'.system.effort ≤ s.system.effort := by
  induction hr with
  | nil => exact ⟨hs.beside, rfl, rfl, by simp⟩
  | snoc _ he ih =>
    obtain ⟨hbeside, hclients, houtput, hlength⟩ := ih fun e he => hes e (List.mem_append_left _ he)
    obtain ⟨k, rfl, hk⟩ := hes _ (List.mem_append_right _ (List.mem_singleton_self _))
    cases step_of_after? he with
    | advance ha =>
      have hless := System.effort_advance hbeside.requesting.requests ha
      refine ⟨hbeside.advance ((hbeside.same k).trans hk) ha, hclients, houtput, ?_⟩
      rw [List.length_append, List.length_singleton]
      dsimp only
      omega

/-- What the system can do in such steps, the server can. -/
theorem run_of_goes {total : Nat} {system system' : System ρ τ σ}
    {es : List (AttributeGateway.Event ρ σ)} (hs : System.Requesting total system)
    (hr : System.RunWhere (System.Goes stalled) system es system') (hsame : s.system = system) :
    ∃ es', (∀ e ∈ es', s.Goes stalled e) ∧ Run s es' { s with system := system' } ∧
      System.Beside stalled total system system' := by
  induction hr with
  | nil =>
    subst hsame
    exact ⟨[], nofun, .nil s, hs.beside⟩
  | @snoc u u' _ e hr hP he ih =>
    obtain ⟨es', hes', hrun, hbeside⟩ := ih
    obtain ⟨k, rfl, hk⟩ := hP
    have ha : ({ s with system := u } : Server ρ τ σ).after? (.advance k) =
        some { s with system := u' } :=
      congrArg (Option.map fun system => ({ s with system } : Server ρ τ σ)) he
    refine ⟨es' ++ [.advance k], fun e he => ?_, hrun.snoc ha, hbeside.advance hk he⟩
    rcases List.mem_append.1 he with he | he
    · exact hes' e he
    · refine ⟨k, List.mem_singleton.1 he, ?_⟩
      rw [hsame]
      exact (hbeside.same k).symm.trans hk

/-- Whoever has asked for a permit does not get others ahead of it that stand still. -/
theorem Step.ahead {total : Nat} (h : Step s e s') (hd : e ≠ .drain)
    (hs : System.Requesting total s.system) (hk : k ∈ s.system.gateway.workers.entries)
    (hu : s'.system.Unfinished k) : s'.system.ahead stalled k ≤ s.system.ahead stalled k := by
  have hlt : k < s.system.tasks.length := by
    obtain ⟨t, ht, -⟩ := hs.kept.staffed.engaged hk
    exact System.lt_of_task? ht
  have hlift := h.lift_requesting (I := fun u => k < u.tasks.length ∧
    (u.Unfinished k → k ∈ u.gateway.workers.entries ∧
      u.ahead stalled k ≤ s.system.ahead stalled k)) hd ?_ ?_ hs
    ⟨hlt, fun _ => ⟨hk, Nat.le_refl _⟩⟩
  · exact (hlift.2.2 hu).2
  · rintro u a u' hreq ⟨hlt, hahead⟩ he
    refine ⟨Nat.lt_of_lt_of_le hlt (System.length_tasks_le he), fun hu' => ?_⟩
    obtain ⟨hmem, hle⟩ := hahead (System.unfinished_of_after? he hlt hu')
    exact ⟨System.mem_entries_after? he hmem hu', (System.ahead_after? hreq he hmem hu').trans hle⟩
  · rintro u u' hreq ⟨hlt, hahead⟩ hg hw ht
    refine ⟨by rwa [ht], fun hu' => ?_⟩
    obtain ⟨t, hk, hun⟩ := hu'
    obtain ⟨hmem, hle⟩ := hahead ⟨t, (System.task?_of_tasks ht k).symm.trans hk, hun⟩
    refine ⟨by rwa [hw], (System.ahead_le (fun i _ hi => ?_) (.inl (by rw [hw]))).trans hle⟩
    rwa [System.isStalled, hreq.url?_of_counts hg ht] at hi

/-- **A task is addressed to the URL of its line** until it has come to its result. -/
theorem url?_of_asked {config : Config} {remote : ρ} {s₀ : Server ρ τ σ}
    (h₀ : start? config remote = some s₀) (hr : Run s₀ es s) (ho : s.Early)
    {a : TaskId × String} (ha : a ∈ asked id s₀ es) :
    a.1 < s.system.tasks.length ∧
      (s.system.url? a.1 = Command.url? a.2 ∨ s.system.url? a.1 = none) := by
  induction hr with
  | nil => cases ha
  | @snoc u s es e hr he ih =>
    have hstep := step_of_after? he
    obtain ⟨ho', hne⟩ := hstep.early ho
    rw [asked_snoc hr he] at ha
    rcases List.mem_append.1 ha with ha | ha
    · have hlift := hstep.lift_requesting (I := fun u => a.1 < u.tasks.length ∧
        (u.url? a.1 = Command.url? a.2 ∨ u.url? a.1 = none)) hne ?_ ?_
        (requesting_of_run h₀ hr ho') (ih ho' ha)
      · exact hlift.2
      · rintro v b v' hreq ⟨hlt, hurl⟩ he'
        refine ⟨Nat.lt_of_lt_of_le hlt (System.length_tasks_le he'), ?_⟩
        rcases System.url?_after? hreq he' hlt with hsame | hnone
        · rwa [hsame]
        · exact .inr hnone
      · rintro v v' hreq ⟨hlt, hurl⟩ hg hw ht
        exact ⟨by rwa [ht], by rwa [hreq.url?_of_counts hg ht]⟩
    · -- The task has just begun.
      cases hstep with
      | ask hc _ hp =>
        rw [taken] at ha
        split at ha
        · next hid =>
          subst hid
          rw [hc, Option.bind_some, hp] at ha
          obtain rfl := List.mem_singleton.1 ha
          refine ⟨by simp [System.begin], .inl ?_⟩
          rw [System.url?, System.task?_begin, if_pos rfl]
          rfl
        · cases ha
      | stopReading hc _ hp =>
        rw [taken] at ha
        split at ha
        · next hid =>
          subst hid
          rw [hc, Option.bind_some, hp] at ha
          cases ha
        · cases ha
      | _ => cases ha

/-- **Endpoints that do not answer do not keep requests for others from being answered**, as long as
there are permits left. In every server that can come about, let the first line in flight of a
client name no endpoint that does not answer. When tasks go on that are not addressed to such
endpoints either, in whatever order, the line is answered after a bounded number of steps, though
none of the other tasks takes a step; provided that, of those, fewer than there are permits have a
permit or wait for one ahead of it. Once the task for the line has asked for a permit, their number
does not grow, whatever happens. -/
theorem answered_beside_stalled {config : Config} {remote : ρ} {s₀ : Server ρ τ σ}
    (h₀ : start? config remote = some s₀) (hr : Run s₀ es s) (hc : s.client? id = some c)
    (hk : c.inFlight.head? = some k) {line : String} (hline : (k, line) ∈ asked id s₀ es)
    (hother : (Command.url? line).any stalled = false)
    (hahead : s.system.Unfinished k → s.system.ahead stalled k < config.workers.toNat) :
    (∀ es' s', Run s es' s' → (∀ e ∈ es', s.Goes stalled e) →
      es'.length ≤ s.system.effort ∧
      ∃ es'' s'' r, (∀ e ∈ es'', s.Goes stalled e) ∧ Run s' (es'' ++ [.answer id]) s'' ∧
        s''.answers id = s.answers id ++ [r]) ∧
    ∀ e s', s.after? e = some s' → k ∈ s.system.gateway.workers.entries →
      s'.system.Unfinished k → s'.system.ahead stalled k ≤ s.system.ahead stalled k := by
  have hearly := (stopping_of_run h₀ hr).early hc
  have hs := requesting_of_run h₀ hr hearly
  have hfree : s.system.isStalled stalled k = false := by
    rcases (url?_of_asked h₀ hr hearly hline).2 with hurl | hurl <;> rw [System.isStalled, hurl]
    · exact hother
    · rfl
  constructor
  · intro es' s' hr' hes'
    obtain ⟨hbeside, hclients, houtput, hlength⟩ := beside_of_run hs hr' hes'
    refine ⟨by omega, ?_⟩
    have hthere := present_of_run h₀ hr hc (List.mem_of_mem_head? hk)
    obtain ⟨t, ht⟩ := Option.ne_none_iff_exists'.1 (hbeside.present hthere)
    obtain ⟨es₁, system, r, hsystem, hresult⟩ := System.finishes hbeside.requesting ht
      ((hbeside.same k).trans hfree)
      fun hu => Nat.lt_of_le_of_lt (hbeside.ahead hu) (hahead (hbeside.unfinished hu))
    obtain ⟨es'', hes'', hrun, -⟩ := run_of_goes (s := s') hbeside.requesting hsystem rfl
    have hanswer : ({ s' with system } : Server ρ τ σ).after? (.answer id) = some { s' with
        system
        clients := s'.clients.insert id c.settle
        output := s'.output ++ [(id, r)] } := by
      have hc' : ({ s' with system } : Server ρ τ σ).client? id = some c := by
        rw [client?, hclients]
        exact hc
      simp only [after?, answer?, hc', hk, hresult, Option.bind_eq_bind, Option.bind_some,
        Option.pure_def]
    refine ⟨es'', _, r, fun e he => ?_, hrun.snoc hanswer, ?_⟩
    · obtain ⟨i, rfl, hi⟩ := hes'' e he
      exact ⟨i, rfl, (hbeside.same i).symm.trans hi⟩
    · rw [answers_append s' _ id id r rfl, if_pos rfl, answers, answers, houtput]
  · intro e s' he hmem hu
    refine (step_of_after? he).ahead (fun hd => ?_) hs hmem hu
    subst hd
    cases step_of_after? he with
    | drain hph => cases hc.symm.trans (Table.isEmpty_iff.1 hph.2 id)

/-! ### When all permits stand still -/

/-- None of some tasks takes a step or is dropped when something happens, and permits are not
withdrawn. -/
def Rests (ids : List TaskId) (e : Event ρ) (s' : Server ρ τ σ) : Prop :=
  e ≠ .withdraw ∧ ∀ k ∈ ids, e ≠ .advance k ∧ s'.system.task? k ≠ none

/-- All permits belong to some tasks. -/
structure Taken (ids : List TaskId) (p : Permits) : Prop where
  free : p.free = 0
  held : p.held = ids
  given : p.withdrawn = false

namespace Taken

variable {ids : List TaskId} {p : Permits}

theorem serve (h : Taken ids p) : Taken ids p.serve := by
  refine ⟨by rw [Permits.serve, h.free, Nat.zero_sub], ?_, h.given⟩
  rw [Permits.serve, h.free, List.take_zero, List.append_nil]
  exact h.held

theorem request (h : Taken ids p) (k : TaskId) : Taken ids (p.request k) :=
  serve ⟨h.free, h.held, h.given⟩

/-- Who has no permit gives none back. -/
theorem leave (h : Taken ids p) (hk : k ∉ ids) : Taken ids (p.leave k) := by
  rw [← h.held] at hk
  refine serve ⟨?_, ?_, h.given⟩
  · rw [h.free, List.count_eq_zero_of_not_mem hk]
  · rw [← h.held, List.filter_eq_self]
    exact fun i hi => decide_eq_true fun he => hk (he ▸ hi)

omit [Remote ρ τ σ] in
theorem foldl_abandon (ids' : List TaskId) {system : System ρ τ σ}
    (h : Taken ids system.gateway.workers) (hids : ∀ k ∈ ids', k ∉ ids) :
    Taken ids (ids'.foldl System.abandon system).gateway.workers := by
  refine List.foldlRecOn (motive := fun u : System ρ τ σ => Taken ids u.gateway.workers) ids' _ h
    fun u hu k hk => ?_
  rcases System.abandon_cases u k with ⟨-, hs⟩ | ⟨t, ht, hs⟩ <;> rw [hs]
  · exact hu
  · change Taken ids (t.abandon k u.gateway).workers
    rw [Task.workers_abandon]
    exact hu.leave (hids k hk)

/-- **Permits stay where they are** while those who have them rest. -/
theorem step (h : Taken ids s.system.gateway.workers) (hs : Step s e s') (hr : Rests ids e s') :
    Taken ids s'.system.gateway.workers := by
  obtain ⟨hwithdraw, hrest⟩ := hr
  cases hs with
  | accept _ _ _ _ _ _ _ hw =>
    rw [hw]
    exact h
  | cut hc =>
    refine foldl_abandon _ h fun k hk hmem => (hrest k hmem).2 ?_
    exact System.task?_foldl_abandon_of_mem hk s.system
  | @advance k system ha =>
    obtain ⟨t, t', ht, hstep, -⟩ := System.advance_cases ha
    have hk : k ∉ ids := fun hmem => (hrest k hmem).1 rfl
    change Taken ids system.gateway.workers
    rcases Task.workers_cases hstep with hw | ⟨hw, -⟩ | ⟨hw, -⟩ <;> rw [hw]
    · exact h
    · exact h.leave hk
    · exact h.request k
  | withdraw => exact absurd rfl hwithdraw
  | _ => exact h

end Taken

omit [Remote ρ τ σ] in
/-- The first line in flight stays the first one until its task has come to its result, and nothing
is answered before it. -/
theorem Service.first (h : Service s id e s')
    (hfirst : ∀ {c}, s.client? id = some c → c.inFlight.head? = some k)
    (hres : s.system.result? k = none) :
    (∀ {c}, s'.client? id = some c → c.inFlight.head? = some k) ∧ s'.answers id = s.answers id := by
  have hlonger {c c' : Connection} (hc : s.client? id = some c) (hc' : s'.client? id = some c')
      (hflight : c.inFlight <+: c'.inFlight) {c₁ : Connection}
      (hc₁ : s'.client? id = some c₁) : c₁.inFlight.head? = some k := by
    cases hc'.symm.trans hc₁
    obtain ⟨more, hmore⟩ := hflight
    rw [← hmore, List.head?_append, hfirst hc, Option.some_or]
  cases h with
  | other _ hc ho => exact ⟨fun hc' => hfirst (hc.symm.trans hc'), ho⟩
  | receive hc ho | endInput hc ho | failInput hc ho =>
    refine ⟨fun hc' => ?_, ho⟩
    obtain ⟨c, hc₁, rfl⟩ := Option.map_eq_some_iff.1 (hc.symm.trans hc')
    refine hlonger hc₁ hc' ?_ hc'
    first
      | exact List.prefix_refl _
      | rw [inFlight_receive]
  | ask hc _ hp hc' _ ho =>
    refine ⟨hlonger hc hc' ?_, ho⟩
    rw [Connection.await, inFlight_pull hp]
    exact List.prefix_append _ _
  | stop hc _ hp hc' ho =>
    refine ⟨hlonger hc hc' ?_, ho⟩
    rw [inFlight_pull hp]
  | answer hc hhead hr =>
    cases (hfirst hc).symm.trans hhead
    cases hres.symm.trans hr
  | leave _ _ hc' ho | cut _ hc' ho =>
    refine ⟨fun hc₁ => ?_, ho⟩
    cases hc'.symm.trans hc₁

/-- A client whose first line in flight waits for a permit while some tasks have all of them. -/
structure Starves (id : ClientId) (k : TaskId) (ids : List TaskId) (s : Server ρ τ σ) : Prop where
  taken : Taken ids s.system.gateway.workers
  known : id ≤ s.accepted
  begun : k < s.system.tasks.length
  /-- The task waits for a permit, or has been dropped. -/
  queueing : ∀ {t}, s.system.task? k = some t → ∃ line, t.activity = .queueing line
  /-- The line is the first one in flight, or the client is not there any more. -/
  first : ∀ {c}, s.client? id = some c → c.inFlight.head? = some k

/-- A client that starves goes on starving, and is not answered. -/
theorem Starves.step {ids : List TaskId} (hs : Starves id k ids s) (hk : k ∉ ids)
    (h : Step s e s') (hr : Rests ids e s') :
    Starves id k ids s' ∧ s'.answers id = s.answers id := by
  have hages := h.ages
  have hres : s.system.result? k = none := by
    rw [System.result?, Option.bind_eq_none_iff]
    intro t ht
    obtain ⟨line, hline⟩ := hs.queueing ht
    rw [hline]
    rfl
  have hqueueing {t : Task τ σ} (ht : s'.system.task? k = some t) :
      ∃ line, t.activity = .queueing line := by
    rcases h.task?_cases ht with ht | ⟨t₀, ht₀, hstep⟩ | hnew
    · exact hs.queueing ht
    · -- Who waits without a permit takes no step.
      obtain ⟨line, hline⟩ := hs.queueing ht₀
      rw [Task.step, hline] at hstep
      simp only [Task.takeUp, hs.taken.given, hs.taken.held, Bool.false_eq_true, if_false,
        if_neg (mt List.contains_iff_mem.1 hk)] at hstep
      cases hstep
    · exact absurd hnew (Nat.ne_of_lt hs.begun)
  have hservice : Service s id e s' :=
    h.service fun _ => Nat.ne_of_lt (Nat.lt_succ_of_le hs.known)
  obtain ⟨hfirst, hanswers⟩ := hservice.first hs.first hres
  exact ⟨⟨hs.taken.step h hr, hs.known.trans hages.accepted,
    Nat.lt_of_lt_of_le hs.begun hages.tasks, hqueueing, hfirst⟩, hanswers⟩

/-- **While those who have the permits rest, who waits for one is not answered**, whatever else
happens. -/
theorem unanswered_while_starving {ids : List TaskId} (hs : Starves id k ids s) (hk : k ∉ ids)
    (hr : Run s es s') (hrest : ∀ u e u', Occurs s es u e u' → Rests ids e u') :
    s'.answers id = s.answers id := by
  have hboth : Starves id k ids s' ∧ s'.answers id = s.answers id := by
    induction hr with
    | nil => exact ⟨hs, rfl⟩
    | snoc hr he ih =>
      obtain ⟨hstarves, hanswers⟩ := ih fun u e u' ho => hrest u e u' (ho.snoc _)
      obtain ⟨hstarves', hanswers'⟩ :=
        hstarves.step hk (step_of_after? he) (hrest _ _ _ (hr.occurs he))
      exact ⟨hstarves', hanswers'.trans hanswers⟩
  exact hboth.2

/-- A server with two places for clients, over endpoints in memory. -/
def withPermits (workers : UInt64) : Server Registry Registry.Found Nat where
  config := { workers, maxClients := 2 }
  system := { gateway := { remote := {}, workers := ⟨workers.toNat, [], [], false⟩ } }
  places := 2

/-- An endpoint takes its time to answer a client. Another client names another endpoint. -/
def stalling : List (Event Registry) :=
  List.flatten [
    [.alter fun r => (r.register "u").slowDown "b" "a",
      .connect, .receive 1 ("GET u %s b a\n".toList.map Char.toUInt8), .read 1],
    List.replicate 13 (.advance 0),
    [.connect, .receive 2 ("CLOSE v\n".toList.map Char.toUInt8), .read 2, .advance 1]]

theorem answered_beside_stalled_two : ∃ es s' r,
    (∀ e ∈ es, ((withPermits 2).behind stalling).Goes (· == "u") e) ∧
      Run ((withPermits 2).behind stalling) (es ++ [.answer 2]) s' ∧ s'.answers 2 = [r] := by
  have h₀ : start? (withPermits 2).config {} = some (withPermits 2) := by
    rw [start?, if_pos (by decide)]
    rfl
  have hr : Run (withPermits 2) stalling ((withPermits 2).behind stalling) :=
    run_behind (by decide +kernel)
  have hline : (1, "CLOSE v") ∈ asked 2 (withPermits 2) stalling := by
    rw [show asked 2 (withPermits 2) stalling = [(1, "CLOSE v")] by decide +kernel]
    exact List.mem_singleton_self _
  have hother : (Command.url? "CLOSE v").any (· == "u") = false := by decide +kernel
  have hstate : ((((withPermits 2).behind stalling).client? 2).map (·.inFlight),
      ((withPermits 2).behind stalling).system.ahead (· == "u") 1,
      ((withPermits 2).behind stalling).answers 2) = (some [1], 1, []) := by decide +kernel
  rw [Prod.mk.injEq, Prod.mk.injEq] at hstate
  obtain ⟨hflight, hahead, hnone⟩ := hstate
  obtain ⟨c, hc, hc'⟩ := Option.map_eq_some_iff.1 hflight
  obtain ⟨hanswered, -⟩ := answered_beside_stalled h₀ hr hc (k := 1) (by rw [hc']; rfl)
    hline hother fun _ => by rw [hahead]; decide
  obtain ⟨-, es, s', r, hes, hrun, hanswer⟩ := hanswered [] _ (.nil _) (by simp)
  rw [hnone] at hanswer
  exact ⟨es, s', r, hes, hrun, hanswer⟩

/-- With one permit, the other client waits as long as the endpoint takes its time. -/
theorem unanswered_beside_stalled :
    start? (withPermits 1).config {} = some (withPermits 1) ∧
      Run (withPermits 1) stalling ((withPermits 1).behind stalling) ∧
      ((withPermits 1).behind stalling).system.url? 0 = some "u" ∧
      ((withPermits 1).behind stalling).system.AtRemote 0 ∧
      (((withPermits 1).behind stalling).client? 2).map (·.inFlight) = some [1] ∧
      ((withPermits 1).behind stalling).system.url? 1 = some "v" ∧
      ∀ es s', Run ((withPermits 1).behind stalling) es s' →
        (∀ u e u', Occurs ((withPermits 1).behind stalling) es u e u' → Rests [0] e u') →
        s'.answers 2 = [] := by
  have h₀ : start? (withPermits 1).config {} = some (withPermits 1) := by
    rw [start?, if_pos (by decide)]
    rfl
  have hr : Run (withPermits 1) stalling ((withPermits 1).behind stalling) :=
    run_behind (by decide +kernel)
  have htasks : ((((withPermits 1).behind stalling).system.task? 0).map
        (fun t => decide t.activity.AtRemote),
      (((withPermits 1).behind stalling).system.task? 1).map (·.activity.isQueueing),
      ((withPermits 1).behind stalling).system.url? 0,
      ((withPermits 1).behind stalling).system.url? 1) =
      (some true, some true, some "u", some "v") := by decide +kernel
  have hstate : ((((withPermits 1).behind stalling).client? 2).map (·.inFlight),
      ((withPermits 1).behind stalling).answers 2,
      ((withPermits 1).behind stalling).accepted,
      ((withPermits 1).behind stalling).system.tasks.length,
      ((withPermits 1).behind stalling).system.gateway.workers) =
      (some [1], [], 2, 2, ⟨0, [0], [1], false⟩) := by decide +kernel
  rw [Prod.mk.injEq, Prod.mk.injEq, Prod.mk.injEq] at htasks
  rw [Prod.mk.injEq, Prod.mk.injEq, Prod.mk.injEq, Prod.mk.injEq] at hstate
  obtain ⟨hremote, hqueues, hu, hv⟩ := htasks
  obtain ⟨hflight, hnone, haccepted, hlength, hworkers⟩ := hstate
  have hstarves : Starves 2 1 [0] ((withPermits 1).behind stalling) := by
    refine ⟨by rw [hworkers]; exact ⟨rfl, rfl, rfl⟩, by rw [haccepted], by rw [hlength]; decide,
      fun {t} ht => ?_, fun {c} hc => ?_⟩
    · rw [ht] at hqueues
      exact Activity.isQueueing_iff.1 (Option.some.inj hqueues)
    · rw [hc] at hflight
      have hc' : c.inFlight = [1] := Option.some.inj hflight
      rw [hc']
      rfl
  refine ⟨h₀, hr, hu, ?_, hflight, hv, fun es s' hr' hrest => ?_⟩
  · obtain ⟨t, ht, hat⟩ := Option.map_eq_some_iff.1 hremote
    exact ⟨t, ht, of_decide_eq_true hat⟩
  · exact (unanswered_while_starving hstarves (by decide) hr' hrest).trans hnone

end Server

end AttributeGateway
