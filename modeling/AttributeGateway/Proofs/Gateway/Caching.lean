import AttributeGateway.Proofs.Gateway.Runs

/-!
# What is in the cache

A holder enters the cache when it is made, under the URL of its endpoint, and leaves it for good:
whoever looks the URL up again gets a holder that did not exist before. Whoever closes a holder by
way of the cache takes it out first and closes it later, when it gets the lock. In between the
holder may still be used by those who got it before, but nobody gets it any more.

* `Gateway.Grows` — what every event does to holders and cache, and so every run.
* `Activity.Sound` — the holder that a task is about to close is not cached.
* `cache_is_current` — in every run in which holders are closed by way of the cache, the cached
  holders are not closed and belong to their URLs, and no holder comes back.
-/

namespace AttributeGateway

variable {ρ τ σ : Type}

namespace Gateway

variable {g g' g'' : Gateway ρ σ} {h : HolderId} {u : String}

/-! ### What happens to holders and cache -/

/-- Holders have stayed what they are, and what is cached was cached before or is new. -/
structure Grows (g g' : Gateway ρ σ) : Prop where
  /-- No holder is lost. -/
  made : ∀ {h}, g.Made h → g'.Made h
  /-- No holder has another endpoint. -/
  endpoint : ∀ {h}, g.Made h → g'.endpoint h = g.endpoint h
  /-- What is cached was cached, or has just been made for its URL. -/
  cached : ∀ {u h}, g'.cached? u = some h →
    g.cached? u = some h ∨ ¬ g.Made h ∧ g'.Made h ∧ g'.endpoint h = u

theorem Grows.refl (g : Gateway ρ σ) : Grows g g := ⟨fun h => h, fun _ => rfl, fun h => .inl h⟩

theorem Grows.trans (h₁ : Grows g g') (h₂ : Grows g' g'') : Grows g g'' where
  made hm := h₂.made (h₁.made hm)
  endpoint hm := (h₂.endpoint (h₁.made hm)).trans (h₁.endpoint hm)
  cached hu := by
    rcases h₂.cached hu with hu | ⟨hn, hm, he⟩
    · rcases h₁.cached hu with hu | ⟨hn, hm, he⟩
      · exact .inl hu
      · exact .inr ⟨hn, h₂.made hm, (h₂.endpoint hm).trans he⟩
    · exact .inr ⟨mt h₁.made hn, hm, he⟩

theorem Touches.grows (ht : Touches h g g') : Grows g g' where
  made hm := ht.made_iff.2 hm
  endpoint _ := ht.endpoint _
  cached hu := .inl (ht.cached?.symm.trans hu)

theorem Evolves.grows (he : Evolves g g') : Grows g g' :=
  ⟨he.made, he.endpoint _, he.cached _ _⟩

/-- Every cached holder has been made, for the URL under which it is cached. -/
def Keyed (g : Gateway ρ σ) : Prop :=
  ∀ u h, g.cached? u = some h → g.Made h ∧ g.endpoint h = u

/-- A holder that is cached under no URL. -/
def Uncached (g : Gateway ρ σ) (h : HolderId) : Prop := ∀ u, g.cached? u ≠ some h

theorem Keyed.grows (hk : g.Keyed) (hg : g.Grows g') : g'.Keyed := by
  intro u h hu
  rcases hg.cached hu with hu | ⟨-, hm, he⟩
  · obtain ⟨hm, he⟩ := hk u h hu
    exact ⟨hg.made hm, (hg.endpoint hm).trans he⟩
  · exact ⟨hm, he⟩

/-- A holder that is not cached does not get into the cache. -/
theorem Uncached.grows (hu : g.Uncached h) (hm : g.Made h) (hg : g.Grows g') :
    g'.Uncached h := by
  intro u hu'
  rcases hg.cached hu' with hu' | ⟨hn, -⟩
  · exact hu u hu'
  · exact hn hm

/-- A holder that is not cached under its own URL is not cached. -/
theorem Keyed.uncached (hk : g.Keyed) (hu : g.cached? (g.endpoint h) ≠ some h) :
    g.Uncached h := by
  intro u hu'
  rw [← (hk u h hu').2] at hu'
  exact hu hu'

theorem Keyed.acquire (hk : g.Keyed) (u : String) : (g.acquire u).2.Made (g.acquire u).1 :=
  (hk.grows (g.evolves_acquire u).grows u _ (cached?_acquire g u)).1

/-- A holder that is taken out of the cache is not cached any more. -/
theorem Keyed.evict (hk : g.Keyed) (he : g.evict u = (some h, g')) :
    g'.Made h ∧ g'.Uncached h := by
  have hg := (evolves_evict he).grows
  have hu : g.cached? u = some h := congrArg Prod.fst he
  obtain ⟨hm, hend⟩ := hk u h hu
  refine ⟨hg.made hm, (hk.grows hg).uncached ?_⟩
  have hnone := cached?_evict g u u
  rw [he, if_pos rfl] at hnone
  rw [hg.endpoint hm, hend, hnone]
  nofun

theorem Keyed.invalidate (hk : g.Keyed) (hm : g.Made h) :
    (g.invalidate h).Made h ∧ (g.invalidate h).Uncached h := by
  have hg := (g.evolves_invalidate h).grows
  refine ⟨hg.made hm, (hk.grows hg).uncached ?_⟩
  rw [hg.endpoint hm, cached?_invalidate]
  split
  · nofun
  · next hn => exact fun hu => hn ⟨rfl, hu⟩

end Gateway

namespace Activity

variable {g g' : Gateway ρ σ} {act act' : Activity τ σ} {h : HolderId}
  {next : Gateway ρ σ × Activity τ σ}

/-! ### Who closes a holder -/

/-- The holder of an access has been made, and is not cached if it is to be closed. -/
def SoundAccess (g : Gateway ρ σ) (a : Access τ σ) : Prop :=
  g.Made a.holder ∧ (a.aim = .close → g.Uncached a.holder)

/-- The holders that an activity has to do with have been made, and the one that it closes is not
cached. -/
def Sound (g : Gateway ρ σ) : Activity τ σ → Prop
  | .beginning (.access h aim) => g.Made h ∧ aim ≠ .close
  | .beginning (.invalidate h) => g.Made h
  | .requesting _ a | .accessing a | .clearing a _ => SoundAccess g a
  | .returning _ h _ => g.Made h
  | _ => True

theorem Sound.access (hs : act.Sound g) {a : Access τ σ} (ha : act.access? = some a) :
    SoundAccess g a := by
  cases act <;> cases ha <;> exact hs

theorem SoundAccess.grows {a : Access τ σ} (hs : SoundAccess g a) (hg : g.Grows g') :
    SoundAccess g' a :=
  ⟨hg.made hs.1, fun ha => (hs.2 ha).grows hs.1 hg⟩

/-- What others do leaves an activity sound. -/
theorem Sound.grows (hs : act.Sound g) (hg : g.Grows g') : act.Sound g' := by
  cases act with
  | beginning op =>
    cases op with
    | access h aim => exact ⟨hg.made hs.1, hs.2⟩
    | invalidate h => exact hg.made hs
    | _ => trivial
  | requesting p a | accessing a | clearing a urls => exact SoundAccess.grows hs hg
  | returning p h o => exact hg.made hs
  | _ => trivial

theorem sound_connect (hk : g.Keyed) (r : Reading) (inside again : Bool) :
    (connect (τ := τ) r inside again g).2.Sound (connect (τ := τ) r inside again g).1 :=
  ⟨hk.acquire _, nofun⟩

theorem sound_giveUp (hk : g.Keyed) (hm : g.Made h) (f : Fault) :
    (giveUp (τ := τ) h f g).2.Sound (giveUp (τ := τ) h f g).1 := by
  have hg := (g.counts_count fun m => { m with remoteErrors := m.remoteErrors + 1 }).evolves.grows
  obtain ⟨hm', hu⟩ := (hk.grows hg).invalidate (hg.made hm)
  exact ⟨hm', fun _ => hu⟩

theorem Turn.sound {r : Reading} {inside : Bool} {failed : Fault → Prop}
    (ht : Turn h r inside failed g next) (hk : g.Keyed) (hm : g.Made h) :
    next.2.Sound next.1 := by
  cases ht with
  | done => trivial
  | fetch hc => exact ⟨hc.evolves.grows.made hm, nofun⟩
  | giveUp hc f =>
    exact sound_giveUp (hk.grows hc.evolves.grows) (hc.evolves.grows.made hm) f

theorem Resumed.sound {p : Purpose} {o : Outcome} (hr : Resumed h g p o next) (hk : g.Keyed)
    (hm : g.Made h) : next.2.Sound next.1 := by
  cases hr with
  | reconnect | refresh => exact sound_connect hk _ _ _
  | refuse | gaveUp | dropped => trivial
  | goOn _ ht | settle _ ht => exact ht.sound hk hm

/-- A step without an access leaves an activity sound. -/
theorem Quiet.sound [Remote ρ τ σ] {id : TaskId} (hq : Quiet id g act next) (hk : g.Keyed)
    (hs : act.Sound g) : next.2.Sound next.1 := by
  cases hq with
  | get hp hc => exact sound_connect (hk.grows hc.evolves.grows) _ _ _
  | drop hp hc he =>
    obtain ⟨hm, hu⟩ := (hk.grows hc.evolves.grows).evict he
    exact ⟨hm, fun _ => hu⟩
  | clear ha he =>
    obtain ⟨hm, hu⟩ := hk.evict he
    exact ⟨hm, fun _ => hu⟩
  | access h aim => exact ⟨hs.1, fun ha => absurd ha hs.2⟩
  | invalidate h =>
    obtain ⟨hm, hu⟩ := hk.invalidate hs
    exact ⟨hm, fun _ => hu⟩
  | resume hr => exact hr.sound hk hs
  | search ha => rcases ha with ⟨found, rfl⟩ | ⟨error, rfl⟩ <;> trivial
  | _ => trivial

/-- **A step leaves an activity sound.** -/
theorem Sound.step [Remote ρ τ σ] {id : TaskId} (hs : act.Sound g) (hk : g.Keyed)
    (h : act.step id g = some (g', act')) : act'.Sound g' := by
  cases ha : act.access? with
  | some a =>
    obtain ⟨n, hstep, hon⟩ := step_access ha h
    have hsound := (hs.access ha).grows hstep.touches.grows
    subst hon
    -- An access that goes on is to the same holder.
    have hgoOn : ∀ b, n = .inl b → SoundAccess g' b := by
      rintro b rfl
      obtain ⟨hh, haim⟩ := hstep.same
      rw [SoundAccess, hh, haim]
      exact hsound
    cases act with
    | requesting p b | accessing b | clearing b urls =>
      cases ha
      cases n with
      | inl b' => exact hgoOn b' rfl
      | inr o => first | exact hsound.1 | trivial
    | _ => cases ha
  | none => exact (quiet_of_step ha h).sound hk hs

end Activity

namespace System

variable [Remote ρ τ σ] {s s' : System ρ τ σ} {h : HolderId} {u : String} {id : TaskId}
  {e : Event ρ σ} {es : List (Event ρ σ)}

/-! ### Events and runs -/

theorem grows_of_after? (h : s.after? e = some s') : s.gateway.Grows s'.gateway := by
  have hworkers {g : Gateway ρ σ} (hg : s'.gateway = { g with workers := s'.gateway.workers }) :
      g.Grows s'.gateway := by
    rw [hg]
    exact (g.evolves_workers _).grows
  cases change_of_after? h with
  | move ha hstep hg => exact hstep.touches.grows.trans (hworkers hg)
  | @drop id a _ ha hg =>
    have ht := Gateway.touches_modifyLock s.gateway a.holder (·.leave id)
    exact ht.grows.trans (hworkers hg)
  | quiet remote hg =>
    have hr := hg.grows
    exact ⟨hr.made, hr.endpoint, hr.cached⟩

theorem grows_of_run (hr : Run s es s') : s.gateway.Grows s'.gateway := by
  induction hr with
  | nil => exact .refl _
  | snoc _ hs ih => exact ih.trans (grows_of_after? hs)

theorem keyed_of_run {remote : ρ} {workers : Permits} (hr : Run (start remote workers) es s) :
    s.gateway.Keyed := by
  have hk : (start remote workers : System ρ τ σ).gateway.Keyed := fun u h hu => by cases hu
  exact hk.grows (grows_of_run hr)

/-- The cached holders are in use, and no task closes one of them. -/
structure Current (s : System ρ τ σ) : Prop where
  /-- Every cached holder has been made, for its URL. -/
  keyed : s.gateway.Keyed
  /-- No task closes a cached holder. -/
  sound : ∀ id t, s.task? id = some t → t.activity.Sound s.gateway
  /-- No cached holder is closed. -/
  live : ∀ {u h}, s.gateway.cached? u = some h → s.gateway.link h ≠ .closed

/-- What holds of the activities of all tasks still holds behind an event, if it is kept by steps
and by what others do, and holds of what has begun. -/
theorem activity_after? {I : Gateway ρ σ → Activity τ σ → Prop} (h : s.after? e = some s')
    (hI : ∀ id t, s.task? id = some t → I s.gateway t.activity)
    (hgrows : ∀ {g g' act}, I g act → g.Grows g' → I g' act)
    (hstep : ∀ {id act g' act'}, I s.gateway act → act.step id s.gateway = some (g', act') →
      I g' act')
    (hanswer : ∀ line, I s'.gateway (.beginning (.answer line)))
    (hdismiss : I s'.gateway (.finished (.answered Activity.dismissed)))
    (hbegin : ∀ op, e = .begin op → I s'.gateway (.beginning op)) :
    ∀ id t, s'.task? id = some t → I s'.gateway t.activity := by
  intro id t' ht'
  rcases task?_cases h ht' with hsame | ⟨t, -, ht, hs⟩ | ⟨op, he, rfl, -⟩
  · exact hgrows (hI id t' hsame) (grows_of_after? h)
  · rcases Task.step_cases hs with ⟨line, -, -, hact | hact⟩ | ⟨g₁, hact, hw⟩
    · rw [hact]
      exact hdismiss
    · rw [hact]
      exact hanswer line
    · rw [hw]
      exact hgrows (hstep (hI id t ht) hact) (g₁.evolves_workers _).grows
  · exact hbegin op he

/-- An operation that begins names holders that have been made, and closes none of them itself. -/
theorem sound_beginning {op : Operation σ} (hP : Proper s (.begin op : Event ρ σ))
    (h : s.after? (.begin op) = some s') :
    (Activity.beginning op : Activity τ σ).Sound s'.gateway := by
  obtain ⟨hk, ht⟩ := hP
  cases op with
  | access h' aim =>
    refine ⟨(grows_of_after? h).made hk, ?_⟩
    rintro rfl
    exact ht
  | invalidate h' => exact (grows_of_after? h).made hk
  | _ => trivial

theorem Current.sound_after? (hs : Current s) (hP : Proper s e) (h : s.after? e = some s') :
    ∀ id t, s'.task? id = some t → t.activity.Sound s'.gateway := by
  refine activity_after? (I := fun g act => act.Sound g) h hs.sound (fun hI hg => hI.grows hg)
    (fun hI hstep => hI.step hs.keyed hstep) (fun _ => trivial) trivial ?_
  rintro op rfl
  exact sound_beginning hP h

/-- **Every event that closes by way of the cache** keeps the cache current. -/
theorem Current.after? (hs : Current s) (hP : Proper s e) (h : s.after? e = some s') :
    Current s' := by
  have hg := grows_of_after? h
  refine ⟨hs.keyed.grows hg, hs.sound_after? hP h, fun {u h'} hu hclosed => ?_⟩
  cases change_of_after? h with
  | @move id a g n _ ha hstep hg' =>
    have hu : s.gateway.cached? u = some h' := by
      rw [hg'] at hu
      exact hstep.touches.cached?.symm.trans hu
    have hlink : g.link h' = .closed := by
      rw [hg'] at hclosed
      exact hclosed
    by_cases hh : h' = a.holder
    · subst hh
      obtain hlink | ⟨haim, -⟩ := hstep.closes hlink
      · exact hs.live hu hlink
      · -- A task that closes a holder has taken it out of the cache before.
        obtain ⟨t, htask, hact⟩ := Option.bind_eq_some_iff.1 ha
        exact ((hs.sound _ _ htask).access hact).2 haim u hu
    · rw [hstep.touches.link _ hh] at hlink
      exact hs.live hu hlink
  | @drop id a _ ha hg' =>
    have ht := Gateway.touches_modifyLock s.gateway a.holder (·.leave id)
    rw [hg'] at hu hclosed
    exact hs.live (ht.cached?.symm.trans hu)
      ((Gateway.link_modifyLock s.gateway a.holder h' (·.leave id)).symm.trans hclosed)
  | quiet remote hg' =>
    have hlink : s.gateway.link h' = .closed := (hg'.link h').symm.trans hclosed
    rcases hg.cached hu with hu | ⟨hn, -⟩
    · exact hs.live hu hlink
    · rw [Gateway.link_of_not_made hn] at hlink
      cases hlink

omit [Remote ρ τ σ] in
theorem current_start (remote : ρ) (workers : Permits) :
    Current (start remote workers : System ρ τ σ) where
  keyed u h hu := by cases hu
  sound _ _ ht := by cases ht
  live hu := by cases hu

theorem current_of_run {remote : ρ} {workers : Permits}
    (hr : RunWhere Proper (start remote workers) es s) : Current s :=
  hr.preserves (fun hs hP h => hs.after? hP h) (current_start remote workers)

/-- **The cache is current** in every run in which holders are closed by way of it: it has at most
one holder for a URL, which belongs to that URL and is not closed; and a holder that has left it
does not come back, so whoever looks its URL up later gets a holder that did not exist before. -/
theorem cache_is_current {remote : ρ} {workers : Permits}
    (hr : RunWhere Proper (start remote workers) es s) :
    (∀ u h₁ h₂, (u, h₁) ∈ s.gateway.cache.entries → (u, h₂) ∈ s.gateway.cache.entries →
      h₁ = h₂) ∧
    (∀ u h, (u, h) ∈ s.gateway.cache.entries →
      s.gateway.Made h ∧ s.gateway.endpoint h = u ∧ s.gateway.link h ≠ .closed) ∧
    ∀ v e v' u h, Occurs (start remote workers) es v e v' →
      v.gateway.cached? u = some h → v'.gateway.cached? u ≠ some h →
        (∀ u', s.gateway.cached? u' ≠ some h) ∧ ¬ v.gateway.Made (s.gateway.acquire u).1 := by
  have hs := current_of_run hr
  refine ⟨fun u h₁ h₂ hu₁ hu₂ => ?_, fun u h hu => ?_, fun v e v' u h ho hu hu' => ?_⟩
  · rw [Table.mem_entries_iff] at hu₁ hu₂
    exact Option.some.inj (hu₁.symm.trans hu₂)
  · rw [Table.mem_entries_iff] at hu
    obtain ⟨hm, he⟩ := hs.keyed u h hu
    exact ⟨hm, he, hs.live hu⟩
  · obtain ⟨es₁, es₂, -, hv, -, hrest⟩ := hr.split ho
    have hk := keyed_of_run hv.run
    have hg := grows_of_after? ho.after?_eq
    obtain ⟨hm, he⟩ := hk u h hu
    have hgone : v'.gateway.Uncached h := by
      refine (hk.grows hg).uncached ?_
      rw [hg.endpoint hm, he]
      exact hu'
    have hg' := grows_of_run hrest.run
    refine ⟨hgone.grows (hg.made hm) hg', fun hnew => ?_⟩
    -- What is looked up is cached then, so it was cached when the holder left, or is new.
    have hacq := (s.gateway.evolves_acquire u).grows
    have hgot := Gateway.cached?_acquire s.gateway u
    rcases (hg.trans (hg'.trans hacq)).cached hgot with hold | ⟨hn, -⟩
    · have hsame := Option.some.inj (hold.symm.trans hu)
      rw [hsame] at hgot
      exact (hgone.grows (hg.made hm) (hg'.trans hacq)) u hgot
    · exact hn hnew

/-- A request has been answered, and nothing has been done yet about the two requests behind it: to
drop the connection and to read once more. -/
def answeredOnce : List (Event Registry Nat) :=
  [.alter (·.register "u"), .begin (.answer "GET u %s b a"), .begin (.answer "CLOSE u"),
    .begin (.answer "GET u %s b a")] ++ List.replicate 13 (.advance 0)

/-- The holder is taken out of the cache, another one is connected, and then the first is closed. -/
def replaced : List (Event Registry Nat) :=
  answeredOnce ++ .advance 1 :: (List.replicate 7 (.advance 2) ++ List.replicate 4 (.advance 1))

theorem cache_is_current_replaced :
    (∀ u, (inMemory.behind replaced).gateway.cached? u ≠ some 0) ∧
    ¬ (inMemory.behind answeredOnce).gateway.Made
      ((inMemory.behind replaced).gateway.acquire "u").1 := by
  have hr : Run inMemory replaced (inMemory.behind replaced) := run_behind (by decide +kernel)
  have hv : Run inMemory answeredOnce (inMemory.behind answeredOnce) :=
    run_behind (by decide +kernel)
  have hsome : ((inMemory.behind answeredOnce).after? (.advance 1)).isSome := by decide +kernel
  have hgone : (Option.get _ hsome).gateway.cached? "u" = none := by with_unfolding_all rfl
  exact (cache_is_current (hr.proper rfl)).2.2 _ (.advance 1) (Option.get _ hsome) "u" 0
    ⟨answeredOnce, _, rfl, hv, (Option.some_get hsome).symm⟩ (by decide +kernel)
    fun hu => Option.some_ne_none _ (hu.symm.trans hgone)

end System

end AttributeGateway
