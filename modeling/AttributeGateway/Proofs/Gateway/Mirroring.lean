import AttributeGateway.Proofs.Gateway.Likeness

/-!
# The same steps in gateways that are alike

A request sees of a gateway only the holders of its URL, the cache entry of the URL and the endpoint
of the URL. Where a request takes a step in one gateway, the request that stands for it in a gateway
that is alike takes the same step, and the gateways and requests are alike again.

* `Access.Like`, `Activity.Like` — the same stage of the same request, but for numbers.
* `Access.Step.like`, `Activity.Like.step` — the same step is taken.
-/

namespace AttributeGateway

open Registry (Found)

variable {m m' : Matching} {u : String} {g g₁ g' : Gateway Registry Nat} {id id' : TaskId}

/-! ### Accesses -/

/-- The same stage, with sessions that stand for each other. -/
inductive Stage.Like (X : Nat → Nat → Prop) : Stage Found Nat → Stage Found Nat → Prop where
  | beginning : Like X .beginning .beginning
  | sharing : Like X .sharing .sharing
  | upgrading : Like X .upgrading .upgrading
  | excluding : Like X .excluding .excluding
  | establishing (found : Found) : Like X (.establishing found) (.establishing found)
  | guarding : Like X .guarding .guarding
  | reading {x x' : Nat} (h : X x x') : Like X (.reading x) (.reading x')
  | ending {x x' : Nat} (h : X x x') : Like X (.ending x) (.ending x')

/-- An access to holders that stand for each other, at the same stage. -/
structure Access.Like (m : Matching) (a a' : Access Found Nat) : Prop where
  holder : m.holders a.holder a'.holder
  aim : a'.aim = a.aim
  stage : a.stage.Like m.sessions a'.stage

theorem Stage.Like.mono {X X' : Nat → Nat → Prop} {st st' : Stage Found Nat} (h : st.Like X st')
    (hX : ∀ {x x'}, X x x' → X' x x') : st.Like X' st' := by
  cases h with
  | reading hx => exact .reading (hX hx)
  | ending hx => exact .ending (hX hx)
  | establishing found => exact .establishing found
  | _ => constructor

theorem Access.Like.mono {a a' : Access Found Nat} (h : a.Like m a') (hm : m.Extends m') :
    a.Like m' a' :=
  ⟨hm.holders h.holder, h.aim, h.stage.mono hm.sessions⟩

/-- What an access comes to next is the same. -/
abbrev Access.Next.Like (m : Matching) : Access.Next Found Nat → Access.Next Found Nat → Prop :=
  Sum.LiftRel (Access.Like m) Eq

/-- Both look for the endpoint of the URL. -/
theorem Access.like_reached (hg : g.Like m u g') :
    (Remote.reach u g'.remote).1 = (Remote.reach u g.remote).1 ∧
      (Access.reached g u).Like m u (Access.reached g' u) := by
  obtain ⟨hfound, hremote⟩ := hg.remote.reach
  exact ⟨hfound,
    (hg.counts (g.counts_count _) (g'.counts_count _)).setRemote (.refl m) rfl hremote⟩

/-- Both open a session with the endpoint of the URL, or neither does. -/
theorem Access.like_established (hm : m.OneToOne) (hg : g.Like m u g') {found : Found}
    (hs : g.remote.directory.get? u = some found.1) :
    (∃ error, (Remote.establish found g.remote).1 = .error error ∧
        (Remote.establish found g'.remote).1 = .error error ∧
        (Access.established g found).Like m u (Access.established g' found)) ∨
      ∃ x x' m', (Remote.establish found g.remote).1 = .ok x ∧
        (Remote.establish found g'.remote).1 = .ok x' ∧ m.Extends m' ∧ m'.OneToOne ∧
        m'.sessions x x' ∧
        (Access.established g found).Like m' u (Access.established g' found) := by
  rw [Access.established, Access.established]
  rcases hg.remote.establish hs with ⟨error, he, he'⟩ | ⟨r₁, r₁', he, he', hr₁⟩ <;> rw [he, he']
  · exact .inl ⟨error, rfl, rfl, hg⟩
  · obtain ⟨hnew, hnew'⟩ := hg.remote.not_length
    have hext := m.extends_addSession g.remote.sessions.length g'.remote.sessions.length
    exact .inr ⟨_, _, _, rfl, rfl, hext, hm.addSession hnew hnew', .inr ⟨rfl, rfl⟩,
      hg.setRemote hext rfl hr₁⟩

/-- **The access that stands for another takes the same step.** -/
theorem Access.Step.like {a a' : Access Found Nat} {n : Access.Next Found Nat}
    (h : a.Step id g g₁ n) (hm : m.OneToOne) (hg : g.Like m u g') (ha : a.Like m a')
    (hid : m.tasks id id') (hs : a.stage.Addressed g.remote u) :
    ∃ m' g₁' n', m.Extends m' ∧ m'.OneToOne ∧ a'.Step id' g' g₁' n' ∧ g₁.Like m' u g₁' ∧
      Access.Next.Like m' n n' := by
  obtain ⟨h₀, aim, stage⟩ := a
  obtain ⟨h₀', aim', stage'⟩ := a'
  obtain ⟨hh, haim, hst⟩ := ha
  dsimp only at hh haim hst hs
  subst haim
  have hheld {mode : LockMode} (hl : (id, mode) ∈ (g.lock h₀).held) :
      (id', mode) ∈ (g'.lock h₀').held := (hg.holder hh).lock.mem_held hm.tasks hid hl
  have hlink : (g.link h₀).Like m.sessions (g'.link h₀') := (hg.holder hh).link
  obtain ⟨hend, hend'⟩ := hg.endpoint hh
  have hleave {g₁ g₁' : Gateway Registry Nat} (hg : g₁.Like m u g₁') :
      (g₁.modifyLock h₀ (·.leave id)).Like m u (g₁'.modifyLock h₀' (·.leave id')) :=
    hg.modifyLock hm hh (·.leave hm.tasks hid)
  -- Both look for the same endpoint.
  obtain ⟨hreach, hreached⟩ : (Remote.reach (g'.endpoint h₀') g'.remote).1 =
      (Remote.reach (g.endpoint h₀) g.remote).1 ∧
      (reached g (g.endpoint h₀)).Like m u (reached g' (g'.endpoint h₀')) := by
    rw [hend, hend']
    exact like_reached hg
  cases h with
  | askToShare hs haim =>
    cases hs
    cases hst
    exact ⟨m, _, _, .refl m, hm, .askToShare rfl haim, hg.modifyLock hm hh (·.request hid _),
      .inl ⟨hh, rfl, .sharing⟩⟩
  | askToExclude hs =>
    refine ⟨m, _, _, .refl m, hm, .askToExclude ?_, hg.modifyLock hm hh (·.request hid _),
      .inl ⟨hh, rfl, .excluding⟩⟩
    rcases hs with ⟨hs, haim⟩ | hs
    · cases hs
      cases hst
      exact .inl ⟨rfl, haim⟩
    · cases hs
      cases hst
      exact .inr rfl
  | find hs hl hk =>
    cases hs
    cases hst
    obtain ⟨x', -, hk'⟩ := hlink.exists_connected hk
    exact ⟨m, _, _, .refl m, hm, .find rfl (hheld hl) hk', hg, .inl ⟨hh, rfl, .guarding⟩⟩
  | giveWay hs hl hk =>
    cases hs
    cases hst
    exact ⟨m, _, _, .refl m, hm, .giveWay rfl (hheld hl) (hlink.eq_disconnected hk), hleave hg,
      .inl ⟨hh, rfl, .upgrading⟩⟩
  | refuse hs hl hk =>
    refine ⟨m, _, _, .refl m, hm, .refuse ?_ (hheld hl) (hlink.eq_closed hk), hleave hg, .inr ?_⟩
    · rcases hs with ⟨hs, hmode⟩ | ⟨hs, haim, hmode⟩
      · cases hs
        cases hst
        exact .inl ⟨rfl, hmode⟩
      · cases hs
        cases hst
        exact .inr ⟨rfl, haim, hmode⟩
    · rw [hend, hend']
  | drop hs haim hl hk =>
    cases hs
    cases hst
    obtain ⟨x', hx, hk'⟩ := hlink.exists_connected hk
    exact ⟨m, _, _, .refl m, hm, .drop rfl haim (hheld hl) hk', hg.setLink hm hh .closed,
      .inl ⟨hh, rfl, .ending hx⟩⟩
  | shut hs haim hl hk =>
    cases hs
    cases hst
    exact ⟨m, _, _, .refl m, hm, .shut rfl haim (hheld hl) (hlink.ne_connected hk),
      hleave (hg.setLink hm hh .closed), .inr rfl⟩
  | share hs haim hl hk =>
    cases hs
    cases hst
    obtain ⟨x', -, hk'⟩ := hlink.exists_connected hk
    exact ⟨m, _, _, .refl m, hm, .share rfl haim (hheld hl) hk',
      hg.modifyLock hm hh (·.downgrade hm.tasks hid), .inl ⟨hh, rfl, .guarding⟩⟩
  | attempt hs haim hl hk hr =>
    cases hs
    cases hst
    exact ⟨m, _, _, .refl m, hm,
      .attempt rfl haim (hheld hl) (hlink.eq_disconnected hk) (hreach.trans hr), hreached,
      .inl ⟨hh, rfl, .establishing _⟩⟩
  | miss hs haim hl hk hr =>
    cases hs
    cases hst
    exact ⟨m, _, _, .refl m, hm,
      .miss rfl haim (hheld hl) (hlink.eq_disconnected hk) (hreach.trans hr),
      hleave (hreached.counts (Gateway.counts_count _ _) (Gateway.counts_count _ _)), .inr rfl⟩
  | @establish found x hs' hr =>
    cases hs'
    cases hst
    rcases like_established hm hg hs with ⟨error, he, -⟩ |
      ⟨x₁, x', m', he, he', hext, hm', hx, hlike⟩
    · rw [he] at hr
      cases hr
    · rw [he] at hr
      cases hr
      have hh' := hext.holders hh
      exact ⟨_, _, _, hext, hm', .establish rfl he',
        (hlike.setLink hm' hh' (.connected hx)).modifyLock hm' hh'
          (·.downgrade hm'.tasks (hext.tasks ▸ hid)), .inl ⟨hh', rfl, .guarding⟩⟩
  | @fail found error hs' hr =>
    cases hs'
    cases hst
    rcases like_established hm hg hs with ⟨error', he, he', hlike⟩ | ⟨x, x', m', he, -⟩
    · rw [he] at hr
      cases hr
      exact ⟨m, _, _, .refl m, hm, .fail rfl he',
        hleave (hlike.counts (Gateway.counts_count _ _) (Gateway.counts_count _ _)), .inr rfl⟩
    · rw [he] at hr
      cases hr
  | use hs haim hk =>
    cases hs
    cases hst
    obtain ⟨x', hx, hk'⟩ := hlink.exists_connected hk
    exact ⟨m, _, _, .refl m, hm, .use rfl haim hk', hg, .inl ⟨hh, rfl, .reading hx⟩⟩
  | lose hs haim hk =>
    cases hs
    cases hst
    refine ⟨m, _, _, .refl m, hm, .lose rfl haim (hlink.ne_connected hk), hleave hg, .inr ?_⟩
    rw [hend, hend']
  | join hs haim =>
    refine ⟨m, _, _, .refl m, hm, .join ?_ haim, hleave hg, .inr rfl⟩
    rcases hs with hs | ⟨x, hs⟩
    · cases hs
      cases hst
      exact .inl rfl
    · cases hs
      cases hst with
      | reading hx => exact .inr ⟨_, rfl⟩
  | @read x bean attributeName hs haim =>
    cases hs
    cases hst with
    | reading hx =>
      have hread : (Remote.read _ bean attributeName g'.remote).1 =
          (Remote.read x bean attributeName g.remote).1 := hg.remote.read hx bean attributeName
      refine ⟨m, _, _, .refl m, hm, .read rfl haim, hleave hg, .inr ?_⟩
      rw [readOutcome, readOutcome, hread]
  | finish hs =>
    cases hs
    cases hst with
    | ending hx =>
      have hclosed := hg.remote.closeSession hm.sessions hx
      exact ⟨m, _, _, .refl m, hm, .finish rfl, hleave (hg.setRemote (.refl m) rfl hclosed),
        .inr rfl⟩

/-! ### Requests -/

namespace Activity

variable {act act' : Activity Found Nat} {h h' : HolderId}
  {next next' : Gateway Registry Nat × Activity Found Nat}

/-- The same request has come equally far, with holders and sessions that stand for each other. -/
inductive Like (m : Matching) : Activity Found Nat → Activity Found Nat → Prop where
  | answer (line : String) : Like m (.beginning (.answer line)) (.beginning (.answer line))
  | requesting (p : Purpose) {a a' : Access Found Nat} (ha : a.Like m a') :
    Like m (.requesting p a) (.requesting p a')
  | returning (p : Purpose) (o : Outcome) {h h' : HolderId} (hh : m.holders h h') :
    Like m (.returning p h o) (.returning p h' o)
  | finished (r : Response) : Like m (.finished (.answered r)) (.finished (.answered r))

theorem Like.mono (h : act.Like m act') (hm : m.Extends m') : act.Like m' act' := by
  cases h with
  | answer line => exact .answer line
  | requesting p ha => exact .requesting p (ha.mono hm)
  | returning p o hh => exact .returning p o (hm.holders hh)
  | finished r => exact .finished r

/-- What comes of a step is alike on either side. Holders and sessions may have been added. -/
def Mirrors (m : Matching) (u : String)
    (next next' : Gateway Registry Nat × Activity Found Nat) : Prop :=
  ∃ m', m.Extends m' ∧ m'.OneToOne ∧ next.1.Like m' u next'.1 ∧ next.2.Like m' next'.2

theorem mirrors_of_like (hm : m.OneToOne) (hg : g.Like m u g') (ha : act.Like m act') :
    Mirrors m u (g, act) (g', act') := ⟨m, .refl m, hm, hg, ha⟩

theorem mirrors_answer (hm : m.OneToOne) (hg : g.Like m u g') (r : Response) :
    Mirrors m u (answer r g) (answer r g') :=
  mirrors_of_like hm (hg.counts ⟨rfl, rfl, rfl⟩ ⟨rfl, rfl, rfl⟩) (.finished r)

theorem mirrors_connect (hm : m.OneToOne) (hg : g.Like m u g') {r : Reading}
    (hr : r.get.endpoint = u) (inside again : Bool) :
    Mirrors m u (connect r inside again g) (connect r inside again g') := by
  subst hr
  obtain ⟨m', hext, hm', hh, hg'⟩ := hg.acquire hm
  exact ⟨m', hext, hm', hg', .requesting _ ⟨hh, rfl, .beginning⟩⟩

theorem mirrors_giveUp (hm : m.OneToOne) (hg : g.Like m u g') (hh : m.holders h h') (f : Fault) :
    Mirrors m u (giveUp h f g) (giveUp h' f g') :=
  mirrors_of_like hm
    ((hg.counts (g.counts_count _) (g'.counts_count _)).invalidate hm hh)
    (.requesting _ ⟨hh, rfl, .beginning⟩)

theorem mirrors_proceed (hm : m.OneToOne) (hg : g.Like m u g') (hh : m.holders h h') (get : Get)
    (lines : List String) (rest : List Query) :
    Mirrors m u (proceed h get lines rest g) (proceed h' get lines rest g') := by
  induction rest generalizing lines g g' with
  | nil => exact mirrors_answer hm hg _
  | cons q queries ih =>
    rw [proceed, proceed]
    split
    · exact mirrors_of_like hm hg (.requesting _ ⟨hh, rfl, .beginning⟩)
    · split
      · exact ih (hg.counts g.counts_countUnavailable g'.counts_countUnavailable) _
      · exact mirrors_giveUp hm hg hh _

theorem mirrors_settle (hm : m.OneToOne) (hg : g.Like m u g') (hh : m.holders h h') (r : Reading)
    (found : Except Fault Value) : Mirrors m u (settle h r found g) (settle h' r found g') := by
  have hcount := hg.counts g.counts_countUnavailable g'.counts_countUnavailable
  unfold settle
  split
  · split
    · exact mirrors_proceed hm hg hh _ _ _
    · exact mirrors_proceed hm hcount hh _ _ _
  · split
    · exact mirrors_proceed hm hcount hh _ _ _
    · exact mirrors_giveUp hm hg hh _

theorem mirrors_fetchAgain (hm : m.OneToOne) (hg : g.Like m u g') (hh : m.holders h h')
    (r : Reading) : Mirrors m u (fetchAgain h r g) (fetchAgain h' r g') := by
  unfold fetchAgain
  split
  · exact mirrors_of_like hm hg (.requesting _ ⟨hh, rfl, .beginning⟩)
  · exact mirrors_proceed hm hg hh _ _ _

/-- Behind an access a request goes on in the same way. -/
theorem mirrors_resume (hm : m.OneToOne) (hg : g.Like m u g') (hh : m.holders h h') {p : Purpose}
    (hp : p.Addressed u) (o : Outcome) : Mirrors m u (resume p h o g) (resume p h' o g') := by
  unfold resume
  split
  · split
    · exact mirrors_connect hm hg hp _ _
    · exact mirrors_answer hm hg _
  · split
    · exact mirrors_fetchAgain hm hg hh _
    · exact mirrors_proceed hm hg hh _ _ _
  · split
    · exact mirrors_connect hm hg hp _ _
    · exact mirrors_settle hm hg hh _ _
  · exact mirrors_settle hm hg hh _ _
  · exact mirrors_settle hm hg hh _ _
  · exact mirrors_answer hm hg _
  · exact mirrors_answer hm hg _

/-- A request begins in the same way. -/
theorem mirrors_beginLine (hm : m.OneToOne) (hg : g.Like m u g') {line : String}
    (hc : Command.concerns u line = true) : Mirrors m u (beginLine line g) (beginLine line g') := by
  simp only [beginLine]
  cases hp : Command.parse line with
  | error f =>
    dsimp only
    exact mirrors_of_like hm (hg.takeUp _ _ _ _) (.finished _)
  | ok c =>
    have hu := Command.eq_of_concerns hp hc
    cases c with
    | get get =>
      dsimp only
      exact mirrors_connect (r := ⟨get, [], get.queries⟩) hm (hg.takeUp _ _ _ _) hu false false
    | close url =>
      have hurl : url = u := hu
      subst hurl
      have hcounted := hg.takeUp (g.commands + 1) (g'.commands + 1)
        (fun m => { m with closeCommands := m.closeCommands + 1 })
        (fun m => { m with closeCommands := m.closeCommands + 1 })
      dsimp only
      split
      · next h₁ g₁ he =>
        split
        · next h₁' g₁' he' =>
          obtain ⟨hrel, hlike⟩ := hcounted.evict he he'
          cases hrel with
          | some hh => exact mirrors_of_like hm hlike (.requesting _ ⟨hh, rfl, .beginning⟩)
        · next g₁' he' => cases (hcounted.evict he he').1
      · next g₁ he =>
        split
        · next h₁' g₁' he' => cases (hcounted.evict he he').1
        · next g₁' he' => exact mirrors_answer hm (hcounted.evict he he').2 _

/-- **The task that stands for another takes the same step.** -/
theorem Like.step (ha : act.Like m act') (hm : m.OneToOne) (hg : g.Like m u g')
    (hid : m.tasks id id') (haddr : act.Addressed g u) (h : act.step id g = some next) :
    ∃ next', act'.step id' g' = some next' ∧ Mirrors m u next next' := by
  cases ha with
  | answer line =>
    cases h
    cases haddr with
    | answer hc => exact ⟨_, rfl, mirrors_beginLine hm hg hc⟩
  | @requesting p a a' ha =>
    obtain ⟨n, hstep, hnext⟩ := step_access rfl h
    cases haddr with
    | requesting hp hm' he hs =>
      obtain ⟨m₁, g₁', n', hext, hm₁, hstep', hlike, hn⟩ := hstep.like hm hg ha hid hs
      refine ⟨_, step_of_access rfl hstep', m₁, hext, hm₁, hlike, ?_⟩
      rw [hnext]
      cases hn with
      | inl hb => exact .requesting p hb
      | inr ho =>
        cases ho
        exact .returning p _ (hext.holders ha.holder)
  | returning p o hh =>
    cases h
    cases haddr with
    | returning hp => exact ⟨_, rfl, mirrors_resume hm hg hh hp o⟩
  | finished r => cases h

end Activity

end AttributeGateway
