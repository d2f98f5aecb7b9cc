import AttributeGateway.Proofs.Gateway.Runs
import Mathlib.Logic.Relation

/-!
# A task with nothing else going on

A task that nobody interferes with gets every lock that it asks for at once. What an access comes to
then depends on the link of its holder alone, and on what the remote side says.

* `Gateway.Stands` — how a holder stands: its lock and its link.
* `Access.Ends` — an access that takes its steps one after the other until it ends;
  `ends_fetch`, `ends_join`, `ends_connect`, `ends_refused`, `ends_close` for what can be asked of
  a holder.
* `Activity.Goes` — steps of a task one after the other.
* `System.AnswersAlone` — what a request line is answered with nothing else going on; there is at
  most one such answer (`AnswersAlone.unique`).
-/

namespace AttributeGateway

variable {ρ τ σ : Type} {id : TaskId} {m : LockMode}

/-! ### Locks that nobody else asks for -/

namespace Lock

theorem request_empty (id : TaskId) (m : LockMode) :
    ({} : Lock).request id m = ⟨[(id, m)], []⟩ := by
  cases m <;> rfl

theorem leave_single (id : TaskId) (m : LockMode) :
    (⟨[(id, m)], []⟩ : Lock).leave id = {} := by
  simp [leave, serve]

theorem downgrade_single (id : TaskId) (m : LockMode) :
    (⟨[(id, m)], []⟩ : Lock).downgrade id = ⟨[(id, .shared)], []⟩ := by
  simp [downgrade, serve]

end Lock

namespace Gateway

variable {g g' : Gateway ρ σ} {h : HolderId} {l : Lock} {k : Link σ}

/-- A holder that has been made, with its lock and its link. -/
structure Stands (g : Gateway ρ σ) (h : HolderId) (l : Lock) (k : Link σ) : Prop where
  /-- The holder has been made. -/
  made : g.Made h
  /-- Its lock. -/
  lock : g.lock h = l
  /-- Its link. -/
  link : g.link h = k

theorem Stands.of_eq (hs : g.Stands h l k) (hh : g'.holders = g.holders) :
    g'.Stands h l k := by
  have hg : g'.holder h = g.holder h := by rw [holder, holder, hh]
  exact ⟨by rw [Made, hh]; exact hs.made, by rw [Gateway.lock, hg]; exact hs.lock,
    by rw [Gateway.link, hg]; exact hs.link⟩

theorem Stands.modifyLock (hs : g.Stands h l k) (f : Lock → Lock) :
    (g.modifyLock h f).Stands h (f l) k :=
  ⟨made_modifyLock.2 hs.made, by rw [lock_modifyLock hs.made, hs.lock],
    (link_modifyLock ..).trans hs.link⟩

theorem Stands.setLink (hs : g.Stands h l k) (k' : Link σ) : (g.setLink h k').Stands h l k' :=
  ⟨made_setLink.2 hs.made, (lock_setLink ..).trans hs.lock, link_setLink hs.made k'⟩

/-- Asking for a lock that nobody has. -/
theorem Stands.request (hs : g.Stands h {} k) (id : TaskId) (m : LockMode) :
    (g.modifyLock h (·.request id m)).Stands h ⟨[(id, m)], []⟩ k := by
  rw [← Lock.request_empty]
  exact hs.modifyLock _

/-- Giving a lock back for which nobody waits. -/
theorem Stands.leave (hs : g.Stands h ⟨[(id, m)], []⟩ k) :
    (g.modifyLock h (·.leave id)).Stands h {} k := by
  rw [← Lock.leave_single id m]
  exact hs.modifyLock _

theorem Stands.downgrade (hs : g.Stands h ⟨[(id, m)], []⟩ k) :
    (g.modifyLock h (·.downgrade id)).Stands h ⟨[(id, .shared)], []⟩ k := by
  rw [← Lock.downgrade_single id m]
  exact hs.modifyLock _

theorem Stands.mem_held (hs : g.Stands h ⟨[(id, m)], []⟩ k) : (id, m) ∈ (g.lock h).held := by
  rw [hs.lock]
  exact List.mem_singleton_self _

/-- What touches another holder, or none, leaves a holder as it stands. -/
theorem Evolves.stands (he : g.Evolves g') (hs : g.Stands h l k) : g'.Stands h l k :=
  ⟨he.made hs.made, (he.lock h).trans hs.lock, (he.link h).trans hs.link⟩

end Gateway

/-! ### An access -/

namespace Access

variable [Remote ρ τ σ] {g g₁ g' : Gateway ρ σ} {a a₁ : Access τ σ} {h : HolderId} {x : σ}
  {o : Outcome}

/-- An access takes its steps one after the other until it ends. -/
inductive Ends (id : TaskId) : Gateway ρ σ → Access τ σ → Gateway ρ σ → Outcome → Prop where
  /-- The last step. -/
  | last {g g' : Gateway ρ σ} {a : Access τ σ} {o : Outcome} (h : a.Step id g g' (.inr o)) :
    Ends id g a g' o
  /-- A step before the last one. -/
  | more {g g₁ g' : Gateway ρ σ} {a a₁ : Access τ σ} {o : Outcome}
      (h : a.Step id g g₁ (.inl a₁)) (he : Ends id g₁ a₁ g' o) : Ends id g a g' o

/-- An access counts no attributes that could not be had. -/
theorem Step.unavailable {n : Next τ σ} (h : a.Step id g g' n) :
    g'.unavailable = g.unavailable := by
  cases h <;> rfl

theorem Ends.unavailable (h : Ends id g a g' o) : g'.unavailable = g.unavailable := by
  induction h with
  | last h => exact h.unavailable
  | more h _ ih => exact ih.trans h.unavailable

/-- An access touches its holder only. -/
theorem Ends.touches (h : Ends id g a g' o) : g.Touches a.holder g' := by
  induction h with
  | last h => exact h.touches
  | more h _ ih =>
    rw [h.same.1] at ih
    exact h.touches.trans ih

/-- An attribute is read through a connected holder. -/
theorem ends_fetch (id : TaskId) (hs : g.Stands h {} (.connected x))
    (bean attributeName : String) :
    ∃ g', Ends id g { holder := h, aim := .fetch bean attributeName } g'
        (readOutcome x bean attributeName g) ∧
      g'.Stands h {} (.connected x) ∧
      g'.remote = (Remote.read x bean attributeName g.remote).2 := by
  have h₁ := hs.request id .shared
  refine ⟨_, .more (.askToShare rfl nofun) (.more (.find rfl h₁.mem_held h₁.link)
    (.more (.use rfl rfl h₁.link) (.last (.read rfl rfl)))), ?_, rfl⟩
  exact Gateway.Stands.leave (h₁.of_eq rfl)

/-- A connected holder is found connected. -/
theorem ends_join (id : TaskId) (hs : g.Stands h {} (.connected x)) :
    ∃ g', Ends (τ := τ) id g { holder := h, aim := .connect } g' .connected ∧
      g'.Stands h {} (.connected x) ∧ g'.remote = g.remote := by
  have h₁ := hs.request id .shared
  exact ⟨_, .more (.askToShare rfl nofun) (.more (.find rfl h₁.mem_held h₁.link)
    (.last (.join (.inl rfl) nofun))), h₁.leave, rfl⟩

/-- Having the lock alone, a disconnected holder is connected, if its endpoint is found and opens a
session. -/
theorem ends_attempt (id : TaskId) {found : τ} {r : ρ}
    (hs : g.Stands h ⟨[(id, .exclusive)], []⟩ .disconnected)
    (hr : Remote.reach (g.endpoint h) g.remote = (.ok found, r))
    (he : (Remote.establish found r).1 = .ok x) :
    ∃ g', Ends (τ := τ) id g { holder := h, aim := .connect, stage := .excluding } g' .connected ∧
      g'.Stands h {} (.connected x) ∧ g'.remote = (Remote.establish found r).2 := by
  have hremote : (reached g (g.endpoint h)).remote = r := congrArg Prod.snd hr
  have h₁ : (established (reached g (g.endpoint h)) found).Stands h ⟨[(id, .exclusive)], []⟩
      .disconnected := hs.of_eq rfl
  refine ⟨_, .more (.attempt rfl nofun hs.mem_held hs.link (congrArg Prod.fst hr))
    (.more (.establish (x := x) rfl ?_) (.last (.join (.inl rfl) nofun))),
    (h₁.setLink (.connected x)).downgrade.leave, ?_⟩
  · rw [hremote]
    exact he
  · exact congrArg (fun r => (Remote.establish found r).2) hremote

/-- A disconnected holder is connected, if its endpoint is found and opens a session. -/
theorem ends_connect (id : TaskId) {found : τ} {r : ρ} (hs : g.Stands h {} .disconnected)
    (hr : Remote.reach (g.endpoint h) g.remote = (.ok found, r))
    (he : (Remote.establish found r).1 = .ok x) :
    ∃ g', Ends (τ := τ) id g { holder := h, aim := .connect } g' .connected ∧
      g'.Stands h {} (.connected x) ∧ g'.remote = (Remote.establish found r).2 := by
  have h₁ := hs.request id .shared
  have h₂ := h₁.leave.request id .exclusive
  have hend : (((g.modifyLock h (·.request id .shared)).modifyLock h (·.leave id)).modifyLock h
      (·.request id .exclusive)).endpoint h = g.endpoint h := by
    rw [(Gateway.touches_modifyLock _ h _).endpoint, (Gateway.touches_modifyLock _ h _).endpoint,
      (Gateway.touches_modifyLock _ h _).endpoint]
  obtain ⟨g', hends, hs', hr'⟩ := ends_attempt id h₂ (by rw [hend]; exact hr) he
  exact ⟨g', .more (.askToShare rfl nofun) (.more (.giveWay rfl h₁.mem_held h₁.link)
    (.more (.askToExclude (.inr rfl)) hends)), hs', hr'⟩

/-- A disconnected holder is not connected, if its endpoint is not found or opens no session. -/
theorem ends_connect_failed (id : TaskId) {error : RemoteError} (hs : g.Stands h {} .disconnected)
    (hr : (Remote.reach (g.endpoint h) g.remote).1 = .error error ∨
      ∃ found r, Remote.reach (g.endpoint h) g.remote = (.ok found, r) ∧
        (Remote.establish found r).1 = .error error) :
    ∃ g', Ends id g { holder := h, aim := .connect } g'
      (.failed (.connectionFailed error.message)) := by
  have h₁ := hs.request id .shared
  have h₂ := h₁.leave.request id .exclusive
  have hend : (((g.modifyLock h (·.request id .shared)).modifyLock h (·.leave id)).modifyLock h
      (·.request id .exclusive)).endpoint h = g.endpoint h := by
    rw [(Gateway.touches_modifyLock _ h _).endpoint, (Gateway.touches_modifyLock _ h _).endpoint,
      (Gateway.touches_modifyLock _ h _).endpoint]
  -- The lock is had alone; then the attempt fails at once, or when a session is to be opened.
  suffices hlast : ∃ g', Ends id (((g.modifyLock h (·.request id .shared)).modifyLock h
      (·.leave id)).modifyLock h (·.request id .exclusive))
        { holder := h, aim := .connect, stage := .excluding } g'
        (.failed (.connectionFailed error.message)) by
    obtain ⟨g', hends⟩ := hlast
    exact ⟨g', .more (.askToShare rfl nofun) (.more (.giveWay rfl h₁.mem_held h₁.link)
      (.more (.askToExclude (.inr rfl)) hends))⟩
  rcases hr with hr | ⟨found, r, hr, he⟩
  · rw [← hend] at hr
    exact ⟨_, .last (.miss rfl nofun h₂.mem_held h₂.link hr)⟩
  · rw [← hend] at hr
    refine ⟨_, .more (.attempt rfl nofun h₂.mem_held h₂.link (congrArg Prod.fst hr))
      (.last (.fail rfl ?_))⟩
    change (Remote.establish found (Remote.reach _ g.remote).2).1 = _
    rw [hr]
    exact he

/-- A closed holder is refused. -/
theorem ends_refused (id : TaskId) (hs : g.Stands h {} .closed) :
    ∃ g', Ends (τ := τ) id g { holder := h, aim := .connect } g'
        (.failed (.holderClosed (g.endpoint h))) ∧
      g'.Stands h {} .closed ∧ g.Touches h g' := by
  have h₁ := hs.request id .shared
  have ht := g.touches_modifyLock h (·.request id .shared)
  refine ⟨_, .more (.askToShare rfl nofun) (.last ?_), h₁.leave,
    ht.trans (Gateway.touches_modifyLock ..)⟩
  rw [← ht.endpoint h]
  exact .refuse (.inl ⟨rfl, rfl⟩) h₁.mem_held h₁.link

/-- A connected holder is closed. -/
theorem ends_close (id : TaskId) (hs : g.Stands h {} (.connected x)) :
    ∃ g', Ends (τ := τ) id g { holder := h, aim := .close } g' .closed ∧
      g'.Stands h {} .closed ∧ g'.remote = (Remote.close x g.remote).2 := by
  have h₁ := hs.request id .exclusive
  have h₂ := h₁.setLink .closed
  exact ⟨_, .more (.askToExclude (.inl ⟨rfl, rfl⟩))
    (.more (.drop rfl rfl h₁.mem_held h₁.link) (.last (.finish rfl))),
    Gateway.Stands.leave (h₂.of_eq rfl), rfl⟩

end Access

/-! ### A task -/

namespace Activity

variable [Remote ρ τ σ] {g g' : Gateway ρ σ} {a : Access τ σ} {o : Outcome} {p : Purpose}

/-- The next step of a task, with the gateway before and behind it. -/
def Next (id : TaskId) (x y : Gateway ρ σ × Activity τ σ) : Prop := x.2.step id x.1 = some y

/-- Steps of a task one after the other. -/
abbrev Goes (id : TaskId) : Gateway ρ σ × Activity τ σ → Gateway ρ σ × Activity τ σ → Prop :=
  Relation.ReflTransGen (Next id)

/-- A request goes through its access. -/
theorem goes_of_ends (he : a.Ends id g g' o) (p : Purpose) :
    Goes id (g, .requesting p a) (g', .returning p a.holder o) := by
  induction he with
  | last h => exact .single (step_of_access rfl h)
  | more h _ ih =>
    rw [← h.same.1]
    exact .head (step_of_access rfl h) ih

/-- A request to read attributes begins by getting a holder of its endpoint. -/
theorem goes_beginLine (id : TaskId) {line : String} {get : Get}
    (hp : Command.parse line = .ok (.get get)) (g : Gateway ρ σ) :
    ∃ g₁, g.Counts g₁ ∧ g₁.unavailable = g.unavailable ∧
      Goes id (g, .beginning (.answer line))
        (connect (τ := τ) ⟨get, [], get.queries⟩ false false g₁) := by
  obtain ⟨g₁, hbegin, hc, hcount⟩ : ∃ g₁, beginLine (τ := τ) line g =
      connect ⟨get, [], get.queries⟩ false false g₁ ∧ g.Counts g₁ ∧
        g₁.unavailable = g.unavailable := by
    simp only [beginLine, hp]
    exact ⟨_, rfl, ⟨rfl, rfl, rfl⟩, rfl⟩
  exact ⟨g₁, hc, hcount, .single (congrArg some hbegin)⟩

end Activity

namespace Task

variable [Remote ρ τ σ] {g g' : Gateway ρ σ} {act act' : Activity τ σ}

/-- A task without a permit that does not wait for one takes the steps of its activity. -/
theorem step_unemployed (hq : ∀ line, act ≠ .queueing line) (g : Gateway ρ σ) :
    Task.step id ⟨act, false⟩ g =
      (act.step id g).map fun next => (next.1, ⟨next.2, false⟩) := by
  cases act with
  | queueing line => exact absurd rfl (hq line)
  | _ => rfl

theorem step_of_activity (h : act.step id g = some (g', act')) :
    Task.step id ⟨act, false⟩ g = some (g', ⟨act', false⟩) := by
  rw [step_unemployed, h, Option.map_some]
  rintro line rfl
  cases h

end Task

namespace System

variable [Remote ρ τ σ] {s s' : System ρ τ σ} {g g' : Gateway ρ σ} {act : Activity τ σ}
  {line : String} {r r' : Response} {n : Nat}

/-- Steps of one task make a run, which changes nothing else but the gateway. -/
theorem run_of_goes {x y : Gateway ρ σ × Activity τ σ} (hg : Activity.Goes id x y)
    (hs : s.gateway = x.1) (ht : s.task? id = some ⟨x.2, false⟩) :
    ∃ n, Run s (List.replicate n (.advance id)) ⟨y.1, s.tasks.set id (some ⟨y.2, false⟩)⟩ := by
  induction hg using Relation.ReflTransGen.head_induction_on generalizing s with
  | refl =>
    obtain ⟨hid, hget⟩ := List.getElem?_eq_some_iff.1 (Option.join_eq_some_iff.1 ht)
    rw [← hs, ← hget, List.set_getElem_self]
    exact ⟨0, .nil s⟩
  | @head x z hstep _ ih =>
    have htask : Task.step id ⟨x.2, false⟩ s.gateway = some (z.1, ⟨z.2, false⟩) :=
      Task.step_of_activity (hs ▸ hstep)
    have he : s.after? (.advance id) = some ⟨z.1, s.tasks.set id (some ⟨z.2, false⟩)⟩ := by
      simp [after?, advance?, ht, htask]
    obtain ⟨n, hr⟩ := ih (s := ⟨z.1, s.tasks.set id (some ⟨z.2, false⟩)⟩) rfl
      ((task?_of_set ht rfl id).trans (if_pos rfl))
    rw [List.set_set] at hr
    exact ⟨n + 1, run_cons.2 ⟨_, he, hr⟩⟩

/-- A task that has ended takes no step. -/
theorem not_run_of_result? {res : Result σ} (h : s.result? id = some res) :
    ¬ Run s (List.replicate (n + 1) (.advance id)) s' := by
  intro hr
  obtain ⟨s₁, hs, -⟩ := run_cons.1 hr
  obtain ⟨⟨act, employed⟩, ht, hres⟩ := Option.bind_eq_some_iff.1 h
  cases act with
  | finished r => simp [after?, advance?, ht, Task.step, Activity.step] at hs
  | _ => cases hres

/-- A task that takes its steps alone ends in one way. -/
theorem ended_unique {k : Nat} {s₁ s₂ : System ρ τ σ} {res₁ res₂ : Result σ}
    (hr₁ : Run s (List.replicate n (.advance id)) s₁) (h₁ : s₁.result? id = some res₁)
    (hr₂ : Run s (List.replicate k (.advance id)) s₂) (h₂ : s₂.result? id = some res₂) :
    s₁ = s₂ := by
  induction n generalizing s k with
  | zero =>
    cases hr₁.unique (.nil _)
    cases k with
    | zero => exact (hr₂.unique (.nil _)).symm
    | succ k => exact absurd hr₂ (not_run_of_result? h₁)
  | succ n ih =>
    cases k with
    | zero =>
      cases hr₂.unique (.nil _)
      exact absurd hr₁ (not_run_of_result? h₂)
    | succ k =>
      obtain ⟨u₁, hu₁, hr₁⟩ := run_cons.1 hr₁
      obtain ⟨u₂, hu₂, hr₂⟩ := run_cons.1 hr₂
      cases hu₁.symm.trans hu₂
      exact ih hr₁ hr₂

/-- A task that is begun and takes its steps alone ends in one way. -/
theorem ended_unique_begin {op : Operation σ} {k : Nat} {s₁ s₂ : System ρ τ σ}
    {res₁ res₂ : Result σ}
    (hr₁ : Run s (.begin op :: List.replicate n (.advance id)) s₁) (h₁ : s₁.result? id = some res₁)
    (hr₂ : Run s (.begin op :: List.replicate k (.advance id)) s₂)
    (h₂ : s₂.result? id = some res₂) : s₁ = s₂ := by
  obtain ⟨u₁, hu₁, hr₁⟩ := run_cons.1 hr₁
  obtain ⟨u₂, hu₂, hr₂⟩ := run_cons.1 hr₂
  cases hu₁.symm.trans hu₂
  exact ended_unique hr₁ h₁ hr₂ h₂

/-- A request line is answered so if nothing else goes on. -/
def AnswersAlone (s : System ρ τ σ) (line : String) (r : Response) : Prop :=
  ∃ n s', Run s (.begin (.answer line) :: List.replicate n (.advance s.tasks.length)) s' ∧
    s'.result? s.tasks.length = some (.answered r)

/-- **There is at most one answer.** -/
theorem AnswersAlone.unique (h : s.AnswersAlone line r) (h' : s.AnswersAlone line r') :
    r = r' := by
  obtain ⟨n, s₁, hr₁, h₁⟩ := h
  obtain ⟨k, s₂, hr₂, h₂⟩ := h'
  cases ended_unique_begin hr₁ h₁ hr₂ h₂
  cases h₁.symm.trans h₂
  rfl

/-- A task that goes from its beginning to a result makes a run, which leaves the other tasks as
they are. -/
theorem run_of_goes_begin {op : Operation σ} {res : Result σ}
    (hg : Activity.Goes s.tasks.length (s.gateway, .beginning op) (g', .finished res)) :
    ∃ n, Run s (.begin op :: List.replicate n (.advance s.tasks.length))
      ⟨g', s.tasks ++ [some ⟨.finished res, false⟩]⟩ := by
  obtain ⟨n, hr⟩ := run_of_goes (s := s.begin op) hg rfl
    ((task?_begin s _ _).trans (if_pos rfl))
  refine ⟨n, run_cons.2 ⟨_, rfl, ?_⟩⟩
  simpa [begin] using hr

omit [Remote ρ τ σ] in
/-- The result of the task that has been begun last. -/
theorem result?_append (g : Gateway ρ σ) (tasks : List (Option (Task τ σ))) (res : Result σ)
    (employed : Bool) :
    (System.mk g (tasks ++ [some ⟨.finished res, employed⟩]) : System ρ τ σ).result?
      tasks.length = some res := by
  rw [result?, task?, List.getElem?_concat_length]
  rfl

/-- A request that goes from its beginning to an answer is answered so. -/
theorem answersAlone_of_goes
    (hg : Activity.Goes s.tasks.length (s.gateway, .beginning (.answer line))
      (g', .finished (.answered r))) : s.AnswersAlone line r := by
  obtain ⟨n, hr⟩ := run_of_goes_begin hg
  exact ⟨n, _, hr, result?_append ..⟩

end System

end AttributeGateway
