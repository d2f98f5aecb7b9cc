import AttributeGateway.Proofs.Gateway.Connecting

/-!
# What a step does to the counters

A gateway counts what its tasks do, each thing in a place of its own. Three of the counters stand in
a fixed relation to others at every moment. Three more relations hold but for the tasks that are
under way: a request whose duration is still to be taken, a request that is being given up, and an
attempt to open a session that has not ended.

* `Gateway.Even` — the relations that hold at every moment.
* `Gateway.Posts` — what is done to the counters: how many durations are owed, how many requests
  have been given up, how many attempts have not failed.
* `Activity.isAsking`, `Activity.isFailing`, `Activity.isOpening` — the tasks that are under way.
* `Activity.posts_of_step` — what a step of a task does to the counters is what it does to the
  relations.
-/

namespace AttributeGateway

variable {ρ τ σ : Type}

namespace Gateway

variable {g g' g'' : Gateway ρ σ} {a b c a' b' c' : Int}

/-! ### Counters -/

/-- What the counters say at every moment. -/
structure Even (g : Gateway ρ σ) : Prop where
  /-- Every line that has been taken up is counted once more, by what it asks for. -/
  commands : g.commands =
    g.metrics.getCommands + g.metrics.closeCommands + g.metrics.invalidCommands
  /-- The gauge shows how many holders are cached. -/
  cached : g.metrics.cachedEndpoints = g.cache.size
  /-- What could not be had is counted in two places. -/
  unavailable : g.unavailable = g.metrics.attributeFailures

/-- How many requests have been taken up and have not had their duration taken. -/
def owed (g : Gateway ρ σ) : Int :=
  g.metrics.getCommands + g.metrics.closeCommands - g.metrics.latencies

/-- How many attempts to open a session have begun and have not failed. -/
def opened (g : Gateway ρ σ) : Int := g.metrics.connectAttempts - g.metrics.connectFailures

/-- So many more durations are owed, requests have been given up, and attempts have begun and not
failed. -/
structure Posts (g g' : Gateway ρ σ) (owed failed opened : Int) : Prop where
  even : g.Even → g'.Even
  owed : g'.owed = g.owed + owed
  failed : (g'.metrics.remoteErrors : Int) = g.metrics.remoteErrors + failed
  opened : g'.opened = g.opened + opened

theorem Posts.trans (h : g.Posts g' a b c) (h' : g'.Posts g'' a' b' c') :
    g.Posts g'' (a + a') (b + b') (c + c') where
  even he := h'.even (h.even he)
  owed := by rw [h'.owed, h.owed, Int.add_assoc]
  failed := by rw [h'.failed, h.failed, Int.add_assoc]
  opened := by rw [h'.opened, h.opened, Int.add_assoc]

/-- Doing nothing to the counters first makes no difference. -/
theorem Posts.after (h : g.Posts g' 0 0 0) (h' : g'.Posts g'' a b c) : g.Posts g'' a b c := by
  have hboth := h.trans h'
  rwa [Int.zero_add, Int.zero_add, Int.zero_add] at hboth

/-- Nothing has been counted. -/
theorem posts_of_eq (hm : g'.metrics = g.metrics) (hc : g'.cache = g.cache)
    (hcommands : g'.commands = g.commands) (hu : g'.unavailable = g.unavailable) :
    g.Posts g' 0 0 0 := by
  refine ⟨fun he => ⟨?_, ?_, ?_⟩, ?_, ?_, ?_⟩
  · rw [hcommands, hm]
    exact he.commands
  · rw [hm, hc]
    exact he.cached
  · rw [hu, hm]
    exact he.unavailable
  · rw [Gateway.owed, Gateway.owed, hm, Int.add_zero]
  · rw [hm, Int.add_zero]
  · rw [Gateway.opened, Gateway.opened, hm, Int.add_zero]

theorem Posts.refl (g : Gateway ρ σ) : g.Posts g 0 0 0 := posts_of_eq rfl rfl rfl rfl

theorem posts_modifyLock (g : Gateway ρ σ) (h : HolderId) (f : Lock → Lock) :
    g.Posts (g.modifyLock h f) 0 0 0 := posts_of_eq rfl rfl rfl rfl

/-- The gauge is set whenever the cache changes. -/
theorem posts_gauge (hm : g'.metrics = g.metrics) (hcommands : g'.commands = g.commands)
    (hu : g'.unavailable = g.unavailable) : g.Posts g'.gauge 0 0 0 := by
  have hsame : (g'.gauge).metrics = { g.metrics with cachedEndpoints := g'.cache.size } := by
    rw [← hm]
    rfl
  refine ⟨fun he => ⟨?_, rfl, ?_⟩, ?_, ?_, ?_⟩
  · rw [hsame]
    exact hcommands.trans he.commands
  · rw [hsame]
    exact hu.trans he.unavailable
  · rw [Gateway.owed, hsame]
    exact (Int.add_zero _).symm
  · rw [hsame]
    exact (Int.add_zero _).symm
  · rw [Gateway.opened, hsame]
    exact (Int.add_zero _).symm

theorem posts_acquire (g : Gateway ρ σ) (url : String) : g.Posts (g.acquire url).2 0 0 0 := by
  rcases g.acquire_cases url with ⟨h, -, he⟩ | ⟨-, he⟩ <;> rw [he]
  · exact .refl g
  · exact posts_gauge rfl rfl rfl

theorem posts_evict {url : String} {o : Option HolderId} (h : g.evict url = (o, g')) :
    g.Posts g' 0 0 0 := by
  cases h
  exact posts_gauge rfl rfl rfl

theorem posts_invalidate (g : Gateway ρ σ) (h : HolderId) : g.Posts (g.invalidate h) 0 0 0 := by
  rw [invalidate]
  split <;> exact posts_gauge rfl rfl rfl

theorem posts_countUnavailable (g : Gateway ρ σ) : g.Posts g.countUnavailable 0 0 0 where
  even he := ⟨he.commands, he.cached, congrArg (· + 1) he.unavailable⟩
  owed := (Int.add_zero _).symm
  failed := (Int.add_zero _).symm
  opened := (Int.add_zero _).symm

end Gateway

/-! ### Accesses -/

namespace Access

variable [Remote ρ τ σ] {g g' : Gateway ρ σ} {id : TaskId} {a : Access τ σ} {n : Next τ σ}

/-- An attempt that begins is counted. -/
theorem posts_reached (g : Gateway ρ σ) (url : String) :
    g.Posts (reached g url) 0 0 1 where
  even he := ⟨he.commands, he.cached, he.unavailable⟩
  owed := (Int.add_zero _).symm
  failed := (Int.add_zero _).symm
  opened := by
    simp only [Gateway.opened, reached, Gateway.count]
    omega

/-- An attempt that fails is counted. -/
theorem posts_countFailure (g : Gateway ρ σ) : g.Posts (countFailure g) 0 0 (-1) where
  even he := ⟨he.commands, he.cached, he.unavailable⟩
  owed := (Int.add_zero _).symm
  failed := (Int.add_zero _).symm
  opened := by
    simp only [Gateway.opened, countFailure, Gateway.count]
    omega

theorem opens_of_establish {found : τ} {x : σ} (hs : a.stage = .establishing found)
    (hr : (Remote.establish found g.remote).1 = .ok x) : a.opens g.remote = true := by
  simp only [opens, hs, hr]
  rfl

theorem opens_of_fail {found : τ} {error : RemoteError} (hs : a.stage = .establishing found)
    (hr : (Remote.establish found g.remote).1 = .error error) : a.opens g.remote = false := by
  simp only [opens, hs, hr]
  rfl

theorem opens_of_not_isOpening (h : a.stage.isOpening = false) : a.opens g.remote = false := by
  rw [opens]
  split
  · next found hst =>
    rw [hst] at h
    cases h
  · rfl

/-- A step of an access counts the attempts that begin and those that fail: behind it the attempts
that have not failed are those that have succeeded and those under way. -/
theorem Step.posts (h : a.Step id g g' n) :
    g.Posts g' 0 0 ((n.getLeft?.any (·.stage.isOpening)).toNat - a.stage.isOpening.toNat +
      (a.opens g.remote).toNat) := by
  have hidle (hop : a.stage.isOpening = false) (hop' : n.getLeft?.any (·.stage.isOpening) = false)
      (hp : g.Posts g' 0 0 0) :
      g.Posts g' 0 0 ((n.getLeft?.any (·.stage.isOpening)).toNat - a.stage.isOpening.toNat +
        (a.opens g.remote).toNat) := by
    rw [opens_of_not_isOpening hop, hop, hop']
    exact hp
  cases h with
  | askToShare hst | find hst | giveWay hst | drop hst | shut hst | share hst | use hst | lose hst
  | read hst | finish hst =>
    exact hidle (by rw [hst]; rfl) rfl (Gateway.posts_of_eq rfl rfl rfl rfl)
  | askToExclude hst =>
    refine hidle ?_ rfl (Gateway.posts_of_eq rfl rfl rfl rfl)
    rcases hst with ⟨hst, -⟩ | hst <;> (rw [hst]; rfl)
  | refuse hst =>
    refine hidle ?_ rfl (Gateway.posts_of_eq rfl rfl rfl rfl)
    rcases hst with ⟨hst, -⟩ | ⟨hst, -⟩ <;> (rw [hst]; rfl)
  | join hst =>
    refine hidle ?_ rfl (Gateway.posts_of_eq rfl rfl rfl rfl)
    rcases hst with hst | ⟨x, hst⟩ <;> (rw [hst]; rfl)
  | attempt hst =>
    have hop : a.stage.isOpening = false := by rw [hst]; rfl
    rw [opens_of_not_isOpening hop, hop]
    exact posts_reached g _
  | miss hst =>
    have hop : a.stage.isOpening = false := by rw [hst]; rfl
    rw [opens_of_not_isOpening hop, hop]
    have hp := (posts_reached (τ := τ) g (g.endpoint a.holder)).trans (posts_countFailure _)
    exact hp.trans (Gateway.posts_modifyLock ..)
  | @establish found x hst hr =>
    have hop : a.stage.isOpening = true := by rw [hst]; rfl
    rw [opens_of_establish hst hr, hop]
    exact Gateway.posts_of_eq rfl rfl rfl rfl
  | @fail found error hst hr =>
    have hop : a.stage.isOpening = true := by rw [hst]; rfl
    rw [opens_of_fail hst hr, hop]
    have hsame : g.Posts (established g found) 0 0 0 := Gateway.posts_of_eq rfl rfl rfl rfl
    exact (hsame.trans (posts_countFailure _)).trans (Gateway.posts_modifyLock ..)

end Access

/-! ### Requests -/

namespace Activity

variable {g g' : Gateway ρ σ} {id : TaskId} {act act' : Activity τ σ}
  {next : Gateway ρ σ × Activity τ σ}

/-- Whether a request has been taken up and its duration is still to be taken. -/
def isAsking : Activity τ σ → Bool
  | .requesting _ _ | .returning _ _ _ => true
  | _ => false

/-- Whether a request is being given up. -/
def isFailing : Activity τ σ → Bool
  | .requesting (.givingUp _) _ | .returning (.givingUp _) _ _ => true
  | _ => false

/-- Whether a session is being opened for a holder. -/
def isOpening (act : Activity τ σ) : Bool := act.access?.any (·.stage.isOpening)

/-- Whether a session is being opened for a holder and the remote side is about to give one. -/
def opens [Remote ρ τ σ] (act : Activity τ σ) (remote : ρ) : Bool :=
  act.access?.any (·.opens remote)

/-- A request that was under way has gone on: its duration is taken if it has been answered, and it
is counted if it is given up. -/
def Posted (g : Gateway ρ σ) (next : Gateway ρ σ × Activity τ σ) : Prop :=
  g.Posts next.1 (next.2.isAsking.toNat - 1) next.2.isFailing.toNat 0

theorem Posted.after (hp : Posted g' next) (h : g.Posts g' 0 0 0) : Posted g next :=
  Gateway.Posts.after h hp

theorem posts_answer (r : Response) (g : Gateway ρ σ) :
    g.Posts (answer (τ := τ) r g).1 (-1) 0 0 where
  even he := ⟨he.commands, he.cached, he.unavailable⟩
  owed := by
    simp only [Gateway.owed, answer, Gateway.count]
    omega
  failed := (Int.add_zero _).symm
  opened := (Int.add_zero _).symm

theorem posted_answer (r : Response) (g : Gateway ρ σ) : Posted g (answer (τ := τ) r g) :=
  posts_answer r g

theorem posted_connect (r : Reading) (inside again : Bool) (g : Gateway ρ σ) :
    Posted g (connect (τ := τ) r inside again g) := Gateway.posts_acquire g _

theorem posted_giveUp (h : HolderId) (f : Fault) (g : Gateway ρ σ) :
    Posted g (giveUp (τ := τ) h f g) := by
  have hcount : g.Posts (g.count fun m => { m with remoteErrors := m.remoteErrors + 1 }) 0 1 0 :=
    ⟨fun he => ⟨he.commands, he.cached, he.unavailable⟩, (Int.add_zero _).symm, rfl,
      (Int.add_zero _).symm⟩
  exact hcount.trans (Gateway.posts_invalidate _ h)

theorem posted_proceed (h : HolderId) (get : Get) (lines : List String) (rest : List Query)
    (g : Gateway ρ σ) : Posted g (proceed (τ := τ) h get lines rest g) := by
  induction rest generalizing lines g with
  | nil => exact posted_answer _ g
  | cons q queries ih =>
    rw [proceed]
    split
    · exact .refl g
    · split
      · exact (ih _ _).after g.posts_countUnavailable
      · exact posted_giveUp h _ g

theorem posted_settle (h : HolderId) (r : Reading) (found : Except Fault Value)
    (g : Gateway ρ σ) : Posted g (settle (τ := τ) h r found g) := by
  unfold settle
  split
  · split
    · exact posted_proceed ..
    · exact (posted_proceed ..).after g.posts_countUnavailable
  · split
    · exact (posted_proceed ..).after g.posts_countUnavailable
    · exact posted_giveUp h _ g

theorem posted_fetchAgain (h : HolderId) (r : Reading) (g : Gateway ρ σ) :
    Posted g (fetchAgain (τ := τ) h r g) := by
  rw [fetchAgain]
  split
  · exact .refl g
  · exact posted_proceed ..

/-- Behind an access a request goes on, unless it has been given up. -/
theorem posted_resume {p : Purpose} (hp : ∀ f, p ≠ .givingUp f) (h : HolderId) (o : Outcome)
    (g : Gateway ρ σ) : Posted g (resume (τ := τ) p h o g) := by
  cases p with
  | connecting r inside again =>
    cases o with
    | failed f =>
      simp only [resume]
      split
      · exact posted_connect ..
      · exact posted_answer _ g
    | connected | fetched | closed =>
      simp only [resume]
      split
      · exact posted_fetchAgain ..
      · exact posted_proceed ..
  | fetching r again =>
    cases o with
    | failed f =>
      simp only [resume]
      split
      · exact posted_connect ..
      · exact posted_settle ..
    | connected | fetched | closed => exact posted_settle ..
  | givingUp f => exact absurd rfl (hp f)
  | dropping => exact posted_answer _ g

/-- A line that is taken up is counted, and its duration is owed if it is a request. -/
theorem posts_beginLine (line : String) (g : Gateway ρ σ) :
    g.Posts (beginLine (τ := τ) line g).1 (beginLine (τ := τ) line g).2.isAsking.toNat 0 0 := by
  -- What is counted before the request goes on.
  have hasked {f : Metrics → Metrics}
      (hcommands : g.Even → ({ g with commands := g.commands + 1 }.count f).Even)
      (howed : ({ g with commands := g.commands + 1 }.count f).owed = g.owed + 1)
      (hm : (f g.metrics).remoteErrors = g.metrics.remoteErrors ∧
        ({ g with commands := g.commands + 1 }.count f).opened = g.opened) :
      g.Posts ({ g with commands := g.commands + 1 }.count f) 1 0 0 :=
    ⟨hcommands, howed, by rw [Int.add_zero, ← hm.1]; rfl, by rw [Int.add_zero, hm.2]⟩
  simp only [beginLine]
  split
  · refine ⟨fun he => ⟨?_, he.cached, he.unavailable⟩, ?_, ?_, ?_⟩ <;>
      try exact (Int.add_zero _).symm
    have hc := he.commands
    simp only [Gateway.count]
    omega
  · have hget := hasked (f := fun m => { m with getCommands := m.getCommands + 1 })
      (fun he => ⟨by have hc := he.commands; simp only [Gateway.count]; omega, he.cached,
        he.unavailable⟩) (by simp only [Gateway.owed, Gateway.count]; omega) ⟨rfl, rfl⟩
    exact hget.trans (posted_connect _ false false _)
  · next url _ =>
    have hclose := hasked (f := fun m => { m with closeCommands := m.closeCommands + 1 })
      (fun he => ⟨by have hc := he.commands; simp only [Gateway.count]; omega, he.cached,
        he.unavailable⟩) (by simp only [Gateway.owed, Gateway.count]; omega) ⟨rfl, rfl⟩
    split
    · next he => exact hclose.trans (Gateway.posts_evict he)
    · next he => exact (hclose.trans (Gateway.posts_evict he)).trans (posts_answer _ _)

/-- No request is given up when its line is taken up. -/
theorem isFailing_beginLine (line : String) (g : Gateway ρ σ) :
    (beginLine (τ := τ) line g).2.isFailing = false := by
  simp only [beginLine]
  split
  · rfl
  · rfl
  · split <;> rfl

/-- Taking holders out of the cache is no request, and has nothing counted. -/
theorem posts_sweep (g : Gateway ρ σ) (urls : List String) :
    g.Posts (sweep (τ := τ) g urls).1 0 0 0 ∧ (sweep (τ := τ) g urls).2.isAsking = false ∧
      (sweep (τ := τ) g urls).2.isFailing = false := by
  cases urls with
  | nil => exact ⟨.refl g, rfl, rfl⟩
  | cons url urls =>
    rw [sweep]
    split
    · next he => exact ⟨Gateway.posts_evict he, rfl, rfl⟩
    · next he => exact ⟨Gateway.posts_evict he, rfl, rfl⟩

/-- What the first step of an operation does to the counters. -/
theorem posts_begin [Remote ρ τ σ] (id : TaskId) (op : Operation σ) (g : Gateway ρ σ) :
    g.Posts (begin (τ := τ) id op g).1 (begin (τ := τ) id op g).2.isAsking.toNat
      (begin (τ := τ) id op g).2.isFailing.toNat 0 := by
  cases op with
  | answer line =>
    rw [begin, isFailing_beginLine]
    exact posts_beginLine line g
  | evict url =>
    obtain ⟨hp, hasks, hfails⟩ := posts_sweep (τ := τ) g [url]
    rw [begin, hasks, hfails]
    exact hp
  | openSession url =>
    simp only [begin]
    split <;> exact Gateway.posts_of_eq rfl rfl rfl rfl
  | invalidate h => exact g.posts_invalidate h
  | submit | access | drain | readSession | endSession => exact Gateway.posts_of_eq rfl rfl rfl rfl

/-- What an access does to the counters is what a task with this access does to them. -/
theorem posts_of_access [Remote ρ τ σ] {a : Access τ σ} {n : Access.Next τ σ}
    (ha : act.access? = some a) (hn : a.Step id g g' n) :
    g.Posts g' ((act.onward n).isAsking.toNat - act.isAsking.toNat)
      (if act.isFailing then 0 else (act.onward n).isFailing.toNat)
      ((act.onward n).isOpening.toNat - act.isOpening.toNat + (act.opens g.remote).toNat) := by
  have hp := hn.posts
  have hasks : (act.onward n).isAsking = act.isAsking := by
    cases act <;> cases ha <;> cases n <;> rfl
  have hfails : (act.onward n).isFailing = act.isFailing := by
    cases act with
    | requesting p b => cases p <;> cases n <;> rfl
    | accessing b | clearing b urls => cases n <;> rfl
    | _ => cases ha
  rw [hasks, hfails, isOpening, isOpening, opens, access?_onward ha, ha, Option.any_some,
    Option.any_some, Int.sub_self]
  cases act.isFailing <;> exact hp

/-- **What a step does to the counters**: durations are owed for the requests under way, a request
that is given up is counted when this begins, and of the attempts to open a session those are left
that are under way and those that have succeeded. -/
theorem posts_of_step [Remote ρ τ σ] (h : act.step id g = some (g', act')) :
    g.Posts g' (act'.isAsking.toNat - act.isAsking.toNat)
      (if act.isFailing then 0 else act'.isFailing.toNat)
      (act'.isOpening.toNat - act.isOpening.toNat + (act.opens g.remote).toNat) := by
  cases ha : act.access? with
  | some a =>
    obtain ⟨n, hn, rfl⟩ := step_access ha h
    exact posts_of_access ha hn
  | none =>
    -- No session is being opened, and none begins to be.
    have hopens : act'.isOpening.toNat - act.isOpening.toNat + (act.opens g.remote).toNat =
        (0 : Int) := by
      obtain ⟨remote, hf⟩ := (quiet_of_step ha h).follows
      have hnot : act'.isOpening = false := by
        rw [isOpening]
        cases ha' : act'.access? with
        | none => rfl
        | some a => rw [Option.any_some, hf.fresh a ha']; rfl
      rw [hnot, isOpening, opens, ha]
      rfl
    rw [hopens]
    cases act with
    | beginning op =>
      have hstep : begin id op g = (g', act') := Option.some.inj h
      have hp := posts_begin (τ := τ) id op g
      rw [hstep, ← Int.sub_zero (act'.isAsking.toNat : Int)] at hp
      exact hp
    | returning p h₀ o =>
      have hstep : resume p h₀ o g = (g', act') := Option.some.inj h
      have hp := posted_resume (τ := τ) (p := p) (h := h₀) (o := o) (g := g)
      cases p with
      | givingUp f =>
        cases hstep
        exact posts_answer (τ := τ) (.err .channelError f.detail) g
      | connecting | fetching | dropping =>
        rw [hstep] at hp
        exact hp nofun
    | sweeping urls =>
      have hstep : sweep g urls = (g', act') := Option.some.inj h
      obtain ⟨hp, hasks, hfails⟩ := posts_sweep (τ := τ) g urls
      rw [hstep] at hp hasks hfails
      rw [hasks, hfails]
      exact hp
    | opening | reading | ending =>
      cases h
      exact Gateway.posts_of_eq rfl rfl rfl rfl
    | queueing | finished => cases h
    | requesting | accessing | clearing => cases ha

end Activity

end AttributeGateway
