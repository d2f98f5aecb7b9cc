import AttributeGateway.Proofs.Gateway.Closing
import AttributeGateway.Proofs.Remote.OpenSessions

/-!
# Sessions change hands

Over endpoints in memory a task has at most one thing in its hands: an endpoint that has been found
and with which it is opening a session, or a session that does not belong to a holder. A step of a
task opens a session, for a holder or for itself, takes the session of a holder that it closes,
closes the session that it has, or does nothing to sessions at all.

* `Hand` — what a task has in its hands.
* `Handover` — what a step does to sessions, links and the counters of endpoints, by what the task
  has in its hands before and behind it; `System.handover_of_advance?` says that there are no other
  steps.
-/

namespace AttributeGateway

/-- What a task has in its hands. -/
inductive Hand where
  | nothing
  /-- An endpoint that has been found, with which a session is being opened. -/
  | found (found : Registry.Found)
  /-- A session that has been named to the task. -/
  | named (x : Nat)
  /-- A session that has been named to the task, and that it closes next. -/
  | ending (x : Nat)
  /-- The session of a holder that the task has closed; it closes the session next. -/
  | taken (x : Nat)
  /-- The session that the task has opened. -/
  | opened (x : Nat)

namespace Hand

/-- The session in a hand. -/
def session? : Hand → Option Nat
  | .named x | .ending x | .taken x | .opened x => some x
  | _ => none

/-- How a hand changes in a step that opens no session, takes none and closes none. -/
inductive Moves (r : Registry) : Hand → Hand → Prop where
  /-- Nothing is in the hand any more; no session that was to be closed has been laid aside. -/
  | drop {before : Hand} (hb : ∀ x, before ≠ .taken x ∧ before ≠ .ending x) :
    Moves r before .nothing
  /-- An endpoint is found. -/
  | find {found : Registry.Found} (h : r.directory.get? found.2 = some found.1) :
    Moves r .nothing (.found found)
  /-- A session that has been named is going to be read through. -/
  | use (x : Nat) : Moves r (.named x) (.named x)
  /-- A session that has been named is going to be closed. -/
  | finish (x : Nat) : Moves r (.named x) (.ending x)

theorem moves_nothing (r : Registry) : Moves r .nothing .nothing := .drop fun _ => ⟨nofun, nofun⟩

end Hand

/-- What an access has in its hands. -/
def Access.hand (a : Access Registry.Found Nat) : Hand :=
  match a.stage with
  | .establishing found => .found found
  | .ending x => .taken x
  | _ => .nothing

/-- What an activity has in its hands. -/
def Activity.hand : Activity Registry.Found Nat → Hand
  | .beginning (.readSession x _ _) | .beginning (.endSession x) | .reading x _ _ => .named x
  | .ending x => .ending x
  | .opening found => .found found
  | .finished (.opened x) => .opened x
  | .requesting _ a | .accessing a | .clearing a _ => a.hand
  | _ => .nothing

/-- What a step does to sessions, links and the counters of endpoints, by what the task has in its
hands before and behind it. -/
inductive Handover (g g' : Gateway Registry Nat) : Hand → Hand → Prop where
  /-- Nothing happens to sessions. -/
  | keep {before after : Hand} (hr : g.remote.Retains g'.remote)
      (hl : ∀ h x, g'.link h = .connected x ↔ g.link h = .connected x)
      (ha : before.Moves g.remote after) : Handover g g' before after
  /-- A session is opened for a holder. -/
  | connect (h : HolderId) {found : Registry.Found} {x : Nat}
      (he : (Remote.establish found g.remote).1 = .ok x)
      (hr : g'.remote = (Remote.establish found g.remote).2)
      (hl : g.link h = .disconnected) (hl' : g'.link h = .connected x)
      (ho : ∀ h', h' ≠ h → g'.link h' = g.link h') : Handover g g' (.found found) .nothing
  /-- A session is opened for the task. -/
  | obtain {found : Registry.Found} {x : Nat} (he : (Remote.establish found g.remote).1 = .ok x)
      (hr : g'.remote = (Remote.establish found g.remote).2) (hl : ∀ h, g'.link h = g.link h) :
      Handover g g' (.found found) (.opened x)
  /-- The session of a holder that is closed passes to the task. -/
  | take (h : HolderId) {x : Nat} (hr : g'.remote = g.remote) (hl : g.link h = .connected x)
      (hl' : g'.link h = .closed) (ho : ∀ h', h' ≠ h → g'.link h' = g.link h') :
      Handover g g' .nothing (.taken x)
  /-- The session of the task is closed. -/
  | close {before : Hand} {x : Nat} (hb : before = .taken x ∨ before = .ending x)
      (hr : g'.remote = g.remote.closeSession x) (hl : ∀ h, g'.link h = g.link h) :
      Handover g g' before .nothing

theorem Handover.workers {g g' : Gateway Registry Nat} {before after : Hand}
    (h : Handover g g' before after) (workers : Permits) :
    Handover g { g' with workers } before after := by
  cases h with
  | keep hr hl ha => exact .keep hr hl ha
  | connect h he hr hl hl' ho => exact .connect h he hr hl hl' ho
  | obtain he hr hl => exact .obtain he hr hl
  | take h hr hl hl' ho => exact .take h hr hl hl' ho
  | close hb hr hl => exact .close hb hr hl

/-- An attempt to open a session that fails changes nothing at the endpoint. -/
theorem Registry.establish_eq_error {r : Registry} {found : Found} {error : RemoteError}
    (h : (Remote.establish found r).1 = .error error) : (Remote.establish found r).2 = r := by
  rcases establish_cases found r with ⟨-, -, hs⟩ | ⟨hx, -⟩
  · exact hs
  · rw [hx] at h
    cases h

namespace Access

variable {g g' : Gateway Registry Nat} {id : TaskId} {a : Access Registry.Found Nat}
  {n : Next Registry.Found Nat}

/-- What a step of an access does to sessions, if what has been seen of the link is still true. -/
theorem Step.handover (h : a.Step id g g' n) (hm : a.stage.isOpening → g.Made a.holder)
    (hf : a.stage.Fits (g.link a.holder)) :
    Handover g g' a.hand (n.getLeft?.elim .nothing hand) := by
  have hsame {g₁ : Gateway Registry Nat} {f : Lock → Lock} (hg : ∀ h, g₁.link h = g.link h) :
      ∀ h x, (g₁.modifyLock a.holder f).link h = .connected x ↔ g.link h = .connected x :=
    fun h x => by rw [Gateway.link_modifyLock, hg]
  -- A step from a stage without anything at hand to another such stage, or to the end.
  have hkeep {g₁ : Gateway Registry Nat} {after : Hand} (hb : a.hand = .nothing)
      (ha : after = .nothing) (hr : g.remote.Retains g₁.remote)
      (hl : ∀ h x, g₁.link h = .connected x ↔ g.link h = .connected x) :
      Handover g g₁ a.hand after := by
    rw [hb, ha]
    exact .keep hr hl (Hand.moves_nothing _)
  cases h with
  | askToShare hs | giveWay hs | share hs =>
    exact hkeep (by rw [hand, hs]) rfl (.refl _) (hsame fun _ => rfl)
  | askToExclude hs =>
    refine hkeep ?_ rfl (.refl _) (hsame fun _ => rfl)
    rcases hs with ⟨hs, -⟩ | hs <;> rw [hand, hs]
  | refuse hs =>
    refine hkeep ?_ rfl (.refl _) (hsame fun _ => rfl)
    rcases hs with ⟨hs, -⟩ | ⟨hs, -⟩ <;> rw [hand, hs]
  | lose hs => exact hkeep (by rw [hand, hs]) rfl (.refl _) (hsame fun _ => rfl)
  | join hs =>
    refine hkeep ?_ rfl (.refl _) (hsame fun _ => rfl)
    rcases hs with hs | ⟨x, hs⟩ <;> rw [hand, hs]
  | find hs | use hs => exact hkeep (by rw [hand, hs]) rfl (.refl _) fun _ _ => Iff.rfl
  | read hs => exact hkeep (by rw [hand, hs]) rfl (.refl _) (hsame fun _ => rfl)
  | drop hs haim hl hk =>
    have hnothing : a.hand = .nothing := by rw [hand, hs]
    rw [hnothing]
    exact .take a.holder rfl hk (Gateway.link_setLink (Gateway.made_of_mem_held hl) _)
      fun h' hne => (Gateway.touches_setLink g a.holder .closed).link h' hne
  | shut hs haim hl hk =>
    refine hkeep (by rw [hand, hs]) rfl (.refl _) fun h x => ?_
    rw [Gateway.link_modifyLock]
    by_cases hh : h = a.holder
    · rw [hh, Gateway.link_setLink (Gateway.made_of_mem_held hl)]
      exact ⟨nofun, fun h => absurd h (hk x)⟩
    · rw [(Gateway.touches_setLink g a.holder .closed).link h hh]
  | attempt hs haim hl hk hr =>
    have hnothing : a.hand = .nothing := by rw [hand, hs]
    rw [hnothing]
    exact .keep (Registry.retains_reach _ _) (fun _ _ => Iff.rfl)
      (.find (Registry.registered_of_reach hr))
  | miss hs haim hl hk hr =>
    exact hkeep (by rw [hand, hs]) rfl (Registry.retains_reach _ _) (hsame fun _ => rfl)
  | @establish found x hs hr =>
    have hmade : (established g found).Made a.holder := hm (by rw [hs]; rfl)
    have hfound : a.hand = .found found := by rw [hand, hs]
    rw [hs] at hf
    rw [hfound]
    refine .connect a.holder hr rfl hf ?_ fun h' hne => ?_
    · rw [Gateway.link_modifyLock, Gateway.link_setLink hmade]
    · rw [Gateway.link_modifyLock]
      exact (Gateway.touches_setLink (established g found) a.holder _).link h' hne
  | @fail found error hs hr =>
    have hfound : a.hand = .found found := by rw [hand, hs]
    rw [hfound]
    refine .keep ?_ (hsame fun _ => rfl) (.drop fun _ => ⟨nofun, nofun⟩)
    change g.remote.Retains (Remote.establish found g.remote).2
    rw [Registry.establish_eq_error hr]
    exact .refl _
  | @finish x hs =>
    refine .close (.inl (by rw [hand, hs])) rfl fun h => ?_
    rw [Gateway.link_modifyLock]
    rfl

end Access

namespace Activity

variable {g g' : Gateway Registry Nat} {id : TaskId} {act act' : Activity Registry.Found Nat}

theorem hand_of_access {a : Access Registry.Found Nat} (ha : act.access? = some a) :
    act.hand = a.hand := by
  cases act <;> cases ha <;> rfl

theorem hand_onward {a : Access Registry.Found Nat} (ha : act.access? = some a)
    (n : Access.Next Registry.Found Nat) :
    (act.onward n).hand = n.getLeft?.elim .nothing Access.hand := by
  cases act <;> cases ha <;> cases n <;> rfl

/-- The session in the hands of a task. -/
theorem loose?_eq (act : Activity Registry.Found Nat) : act.loose? = act.hand.session? := by
  have haccess (a : Access Registry.Found Nat) : a.loose? = a.hand.session? := by
    rw [Access.loose?, Access.hand]
    cases a.stage <;> rfl
  cases act with
  | requesting p a | accessing a | clearing a urls => exact haccess a
  | beginning op => cases op <;> rfl
  | finished r => cases r <;> rfl
  | _ => rfl

/-- A session has been taken if and only if it is about to be closed for a holder. -/
theorem hand_eq_taken_iff {x : Nat} :
    act.hand = .taken x ↔ ∃ a, act.access? = some a ∧ a.stage = .ending x := by
  have haccess (a : Access Registry.Found Nat) : a.hand = .taken x ↔ a.stage = .ending x := by
    rw [Access.hand]
    cases a.stage <;> simp
  cases act with
  | requesting p a | accessing a | clearing a urls => simpa [hand, access?] using haccess a
  | beginning op => cases op <;> simp [hand, access?]
  | finished r => cases r <;> simp [hand, access?]
  | _ => simp [hand, access?]

/-- Only a task that closes a session that has been named to it has it in its hands to be closed. -/
theorem hand_eq_ending_iff {x : Nat} : act.hand = .ending x ↔ act = .ending x := by
  have haccess (a : Access Registry.Found Nat) : a.hand ≠ .ending x := by
    rw [Access.hand]
    cases a.stage <;> simp
  cases act with
  | requesting p a | accessing a | clearing a urls => simpa [hand] using haccess a
  | beginning op => cases op <;> simp [hand]
  | finished r => cases r <;> simp [hand]
  | _ => simp [hand]

/-- Only a task whose result is a session has it in its hands as opened. -/
theorem hand_eq_opened_iff {x : Nat} :
    act.hand = .opened x ↔ act.result? = some (.opened x) := by
  have haccess (a : Access Registry.Found Nat) : a.hand ≠ .opened x := by
    rw [Access.hand]
    cases a.stage <;> simp
  cases act with
  | requesting p a | accessing a | clearing a urls => simpa [hand, result?] using haccess a
  | beginning op => cases op <;> simp [hand, result?]
  | finished r => cases r <;> simp [hand, result?]
  | _ => simp [hand, result?]

/-- Nothing in the hands of a request that goes on with its queries. -/
theorem Turn.hand {h : HolderId} {r : Reading} {inside : Bool} {failed : Fault → Prop}
    {next : Gateway Registry Nat × Activity Registry.Found Nat}
    (ht : Turn h r inside failed g next) : next.2.hand = .nothing := by
  cases ht <;> rfl

theorem Resumed.hand {p : Purpose} {h : HolderId} {o : Outcome}
    {next : Gateway Registry Nat × Activity Registry.Found Nat}
    (hr : Resumed h g p o next) : next.2.hand = .nothing := by
  cases hr with
  | goOn _ ht | settle _ ht => exact ht.hand
  | _ => rfl

/-- What is found is what the URL stands for. -/
theorem registered_of_search {url : String} {found : Registry.Found}
    (h : Activity.step id (.beginning (.openSession url)) g = some (g', .opening found)) :
    g.remote.directory.get? found.2 = some found.1 := by
  have hstep : begin id (.openSession url) g = (g', .opening found) := Option.some.inj h
  simp only [begin] at hstep
  split at hstep
  · next found' hr =>
    cases hstep
    exact Registry.registered_of_reach hr
  · cases hstep

theorem Quiet.handover {next : Gateway Registry Nat × Activity Registry.Found Nat}
    (hq : Quiet id g act next) (h : act.step id g = some next) :
    Handover g next.1 act.hand next.2.hand := by
  have hkeep {g₁ : Gateway Registry Nat} (hg : g.Evolves g₁) {before after : Hand}
      (ha : before.Moves g.remote after) : Handover g g₁ before after :=
    .keep (by rw [hg.remote]; exact .refl _) (fun h x => by rw [hg.link]) ha
  have hnothing := Hand.moves_nothing g.remote
  cases hq with
  | misread hp hc => exact hkeep hc.evolves hnothing
  | get hp hc => exact hkeep (hc.evolves.trans (Gateway.evolves_acquire _ _)) hnothing
  | drop hp hc he => exact hkeep (hc.evolves.trans (Gateway.evolves_evict he)) hnothing
  | dropNone hp hc he =>
    exact hkeep ((hc.evolves.trans (Gateway.evolves_evict he)).trans (evolves_answer _ _)) hnothing
  | submit line => exact hkeep (g.evolves_workers _) hnothing
  | access | drain | swept => exact hkeep (.refl g) hnothing
  | useSession x => exact hkeep (.refl g) (.use x)
  | endSession x => exact hkeep (.refl g) (.finish x)
  | invalidate h₀ => exact hkeep (g.evolves_invalidate h₀) hnothing
  | clear ha he | skip ha he =>
    refine hkeep (Gateway.evolves_evict he) ?_
    rcases ha with rfl | ⟨rfl, -⟩ <;> exact hnothing
  | resume hr =>
    rw [hr.hand]
    exact hkeep hr.follows.evolves hnothing
  | search ha =>
    refine .keep (Registry.retains_reach _ _) (fun _ _ => Iff.rfl) ?_
    rcases ha with ⟨found, rfl⟩ | ⟨error, rfl⟩
    · exact .find (registered_of_search h)
    · exact hnothing
  | opened hr => exact .obtain hr rfl fun _ => rfl
  | unopened hr =>
    refine .keep ?_ (fun _ _ => Iff.rfl) (.drop fun _ => ⟨nofun, nofun⟩)
    simp only [Registry.establish_eq_error hr]
    exact .refl _
  | read hr =>
    rcases hr with ⟨v, rfl⟩ | ⟨error, rfl⟩ <;>
      exact .keep (.refl _) (fun _ _ => Iff.rfl) (.drop fun _ => ⟨nofun, nofun⟩)
  | ended hr =>
    rcases hr with rfl | ⟨error, rfl⟩ <;> exact .close (.inr rfl) rfl fun _ => rfl

/-- **What a step does to sessions**, if what has been seen of a link is still true. -/
theorem handover_step (hm : ∀ a, act.access? = some a → a.stage.isOpening → g.Made a.holder)
    (hf : ∀ a, act.access? = some a → a.stage.Fits (g.link a.holder))
    (h : act.step id g = some (g', act')) : Handover g g' act.hand act'.hand := by
  cases ha : act.access? with
  | some a =>
    obtain ⟨n, hstep, rfl⟩ := step_access ha h
    rw [hand_of_access ha, hand_onward ha]
    exact hstep.handover (hm a ha) (hf a ha)
  | none => exact (quiet_of_step ha h).handover h

end Activity

namespace System

variable {s s' : System Registry Registry.Found Nat} {id : TaskId}

/-- What a task has in its hands. -/
def hand (s : System Registry Registry.Found Nat) (id : TaskId) : Hand :=
  (s.task? id).elim .nothing (·.activity.hand)

theorem hand_of_task? {t : Task Registry.Found Nat} (ht : s.task? id = some t) :
    s.hand id = t.activity.hand := by
  rw [hand, ht]
  rfl

theorem hand_eq_taken_iff {x : Nat} :
    s.hand id = .taken x ↔ ∃ a, s.access? id = some a ∧ a.stage = .ending x := by
  rw [hand, access?]
  cases s.task? id with
  | none => simp
  | some t => exact Activity.hand_eq_taken_iff

theorem hand_eq_ending_iff {x : Nat} :
    s.hand id = .ending x ↔ ∃ t, s.task? id = some t ∧ t.activity = .ending x := by
  rw [hand]
  cases s.task? id with
  | none => simp
  | some t => simpa using Activity.hand_eq_ending_iff

theorem hand_eq_opened_iff {x : Nat} :
    s.hand id = .opened x ↔ s.result? id = some (.opened x) := by
  rw [hand, result?]
  cases s.task? id with
  | none => simp
  | some t => exact Activity.hand_eq_opened_iff

/-- **What a step of a task does to sessions**; no other task gets anything in its hands. -/
theorem handover_of_advance? (hs : Disciplined s) (he : s.advance? id = some s') :
    Handover s.gateway s'.gateway (s.hand id) (s'.hand id) ∧
      ∀ id', id' ≠ id → s'.hand id' = s.hand id' := by
  obtain ⟨t, t', ht, hstep, htasks⟩ := advance_cases he
  have htask := task?_of_set ht htasks
  have hself : s'.hand id = t'.activity.hand := hand_of_task? ((htask id).trans (if_pos rfl))
  refine ⟨?_, fun id' hne => by rw [hand, hand, htask, if_neg hne]⟩
  rw [hself, hand_of_task? ht]
  rcases Task.step_cases hstep with ⟨line, hline, hg, hact⟩ | ⟨g₁, hact, hg⟩
  · rw [hg, hline]
    rcases hact with hact | hact <;> rw [hact] <;>
      exact .keep (.refl _) (fun _ _ => Iff.rfl) (Hand.moves_nothing _)
  · have haccess {a} (ha : t.activity.access? = some a) : s.access? id = some a :=
      (access?_of_task? ht).trans ha
    have hh := Activity.handover_step (fun a ha hop => ?_) (fun a ha => hs.fits (haccess ha)) hact
    · rw [hg]
      exact hh.workers _
    · obtain ⟨hholds, hm⟩ := Stage.holds_of_isOpening hop
      exact Gateway.made_of_mem_held (hs.holds (haccess ha) hholds hm)

end System

end AttributeGateway
