import AttributeGateway.Proofs.Gateway.Caching
import AttributeGateway.Proofs.Remote.Separation

/-!
# What a request is addressed to

A request line names the URL of one endpoint, or it is no request. All that the task for a line does
is for that URL: it uses the holders of the URL and the cache entry of the URL, and it asks for the
endpoint that the URL stands for and for sessions with it.

* `Command.concerns` — whether a line is addressed to a URL.
* `Gateway.Ordered` — holders, cache entries and sessions are of the URLs that they are for.
* `Activity.Addressed` — what a task uses is of one URL; `Activity.Addressed.step` says that it
  stays so, and that the step leaves everything that is of another URL as it is (`Gateway.Spares`).
-/

namespace AttributeGateway

open Registry (Found)

/-- Whether a request line is addressed to a URL, or to none. -/
def Command.concerns (url line : String) : Bool :=
  match parse line with
  | .ok c => c.endpoint == url
  | .error _ => true

theorem Command.eq_of_concerns {url line : String} {c : Command} (hp : parse line = .ok c)
    (hc : concerns url line = true) : c.endpoint = url := by
  rw [concerns, hp] at hc
  exact beq_iff_eq.1 hc

namespace Gateway

variable {g g' : Gateway Registry Nat} {h : HolderId} {u url : String} {x : Nat}

/-! ### Order -/

/-- Every cached holder is of the URL under which it is cached, every session of a holder is with
the endpoint of the holder, and the endpoints are apart. -/
structure Ordered (g : Gateway Registry Nat) : Prop where
  /-- Every cached holder is of the URL under which it is cached. -/
  keyed : g.Keyed
  /-- The session of a holder is with its endpoint. -/
  serves : ∀ {h x}, g.link h = .connected x → g.remote.Serves x (g.endpoint h)
  /-- No two URLs stand for one endpoint. -/
  apart : g.remote.Apart

/-- Holders and sessions stay what they are. -/
structure Keeps (g g' : Gateway Registry Nat) : Prop where
  /-- No holder is lost. -/
  made : ∀ {h}, g.Made h → g'.Made h
  /-- No holder has another endpoint. -/
  endpoint : ∀ {h}, g.Made h → g'.endpoint h = g.endpoint h
  /-- Every URL stands for what it stood for. -/
  directory : g'.remote.directory = g.remote.directory
  /-- Every session is with the endpoint with which it was. -/
  serves : ∀ {x u}, g.remote.Serves x u → g'.remote.Serves x u

/-- The holders of a URL, its cache entry and its endpoint are as they were. -/
structure Spares (g : Gateway Registry Nat) (u : String) (g' : Gateway Registry Nat) : Prop where
  /-- No holder is lost. -/
  made : ∀ {h}, g.Made h → g'.Made h
  /-- No holder has another endpoint. -/
  endpoint : ∀ {h}, g.Made h → g'.endpoint h = g.endpoint h
  /-- The locks of the holders are as they were. -/
  lock : ∀ {h}, g.Made h → g.endpoint h = u → g'.lock h = g.lock h
  /-- The links of the holders are as they were. -/
  link : ∀ {h}, g.Made h → g.endpoint h = u → g'.link h = g.link h
  /-- The cache entry is as it was. -/
  cached : g'.cached? u = g.cached? u
  /-- The endpoint is as it was. -/
  remote : g.remote.Spares u g'.remote

theorem Touches.keeps (ht : g.Touches h g') (hr : g.remote.Acts url g'.remote) : g.Keeps g' :=
  ⟨ht.made_iff.2, fun _ => ht.endpoint _, hr.directory, hr.serves⟩

theorem Evolves.keeps (he : g.Evolves g') : g.Keeps g' := by
  refine ⟨he.made, he.endpoint _, ?_, ?_⟩
  · rw [he.remote]
  · rw [he.remote]
    exact fun h => h

/-- What touches a holder leaves the others, and so those of other URLs, as they are. -/
theorem Touches.spares (ht : g.Touches h g') (hne : u ≠ g.endpoint h)
    (hr : g.remote.Spares u g'.remote) : g.Spares u g' := by
  have hother {h'} (hu : g.endpoint h' = u) : h' ≠ h := by
    rintro rfl
    exact hne hu.symm
  exact ⟨ht.made_iff.2, fun _ => ht.endpoint _, fun _ hu => ht.lock _ (hother hu),
    fun _ hu => ht.link _ (hother hu), ht.cached?, hr⟩

theorem Evolves.spares (he : g.Evolves g') (hc : g'.cached? u = g.cached? u) : g.Spares u g' := by
  refine ⟨he.made, he.endpoint _, fun _ _ => he.lock _, fun _ _ => he.link _, hc, ?_⟩
  rw [he.remote]
  exact .refl _ _

theorem Ordered.evolves (hg : g.Ordered) (he : g.Evolves g') : g'.Ordered := by
  refine ⟨hg.keyed.grows he.grows, fun {h x} hk => ?_, by rw [he.remote]; exact hg.apart⟩
  rw [he.link] at hk
  have hmade : g.Made h := by
    by_contra hno
    rw [link_of_not_made hno] at hk
    cases hk
  rw [he.endpoint h hmade, he.remote]
  exact hg.serves hk

end Gateway

/-! ### Accesses -/

/-- The session that is being opened, read through or closed at a stage is with the endpoint of a
URL. -/
def Stage.Addressed (r : Registry) (url : String) : Stage Found Nat → Prop
  | .establishing found => r.directory.get? url = some found.1
  | .reading x | .ending x => r.Serves x url
  | _ => True

theorem Stage.Addressed.keeps {r r' : Registry} {url : String} {st : Stage Found Nat}
    (hs : st.Addressed r url) (hd : r'.directory = r.directory)
    (hx : ∀ {x}, r.Serves x url → r'.Serves x url) : st.Addressed r' url := by
  cases st with
  | establishing found =>
    rw [Addressed, hd]
    exact hs
  | reading x | ending x => exact hx hs
  | _ => trivial

namespace Access

variable {g g' : Gateway Registry Nat} {id : TaskId} {a b : Access Found Nat}
  {n : Next Found Nat} {x : Nat}

/-- All that an access does at the remote side is for the URL of its holder. -/
theorem Step.acts (h : a.Step id g g' n)
    (hs : a.stage.Addressed g.remote (g.endpoint a.holder)) :
    g.remote.Acts (g.endpoint a.holder) g'.remote := by
  cases h with
  | attempt | miss => exact .reach
  | establish hst | fail hst =>
    rw [hst] at hs
    exact .establish hs
  | finish hst =>
    rw [hst] at hs
    exact .close hs
  | _ => exact .rest

/-- An access gets sessions with the endpoint of its holder only. -/
theorem Step.addressed (h : a.Step id g g' (.inl b))
    (hg : g.Ordered) : b.stage.Addressed g'.remote (g.endpoint a.holder) := by
  generalize hn : (Sum.inl b : Next Found Nat) = n at h
  cases h with
  | attempt hst haim hl hk hr =>
    cases hn
    change (Remote.reach _ g.remote).2.directory.get? _ = some _
    rw [(Registry.Acts.reach : g.remote.Acts (g.endpoint a.holder) _).directory]
    exact (Registry.found_of_reach hr).1
  | use hst haim hk =>
    cases hn
    exact hg.serves hk
  | drop hst haim hl hk =>
    cases hn
    exact hg.serves hk
  | _ => cases hn <;> trivial

/-- An access connects its holder only by opening a session with the endpoint that was found. -/
theorem Step.connects (h : a.Step id g g' n) (hm : g.Made a.holder)
    (hk : g'.link a.holder = .connected x) : g.link a.holder = .connected x ∨
      ∃ found, a.stage = .establishing found ∧ (Remote.establish found g.remote).1 = .ok x ∧
        g'.remote = (Remote.establish found g.remote).2 := by
  have hsame {g₁ : Gateway Registry Nat} {f : Lock → Lock}
      (hk : (g₁.modifyLock a.holder f).link a.holder = .connected x)
      (hg : g₁.link a.holder = g.link a.holder) : g.link a.holder = .connected x := by
    rw [Gateway.link_modifyLock] at hk
    exact hg.symm.trans hk
  cases h with
  | @establish found y hst hr =>
    rw [Gateway.link_modifyLock, Gateway.link_setLink (g := established g found) hm] at hk
    cases hk
    exact .inr ⟨found, hst, hr, rfl⟩
  | drop hst haim hl =>
    rw [Gateway.link_setLink (Gateway.made_of_mem_held hl)] at hk
    cases hk
  | shut hst haim hl =>
    rw [Gateway.link_modifyLock, Gateway.link_setLink (Gateway.made_of_mem_held hl)] at hk
    cases hk
  | find | use | attempt => exact .inl hk
  | _ => exact .inl (hsame hk rfl)

/-- An access keeps holders and sessions in order. -/
theorem Step.ordered (h : a.Step id g g' n) (hm : g.Made a.holder)
    (hs : a.stage.Addressed g.remote (g.endpoint a.holder)) (hg : g.Ordered) : g'.Ordered := by
  have hacts := h.acts hs
  have ht := h.touches
  refine ⟨hg.keyed.grows ht.grows, fun {h' x} hk => ?_, hacts.apart hg.apart⟩
  rw [ht.endpoint]
  by_cases hh : h' = a.holder
  · subst hh
    rcases h.connects hm hk with hk | ⟨found, hst, hr, hremote⟩
    · exact hacts.serves (hg.serves hk)
    · obtain ⟨rfl, hest⟩ := Registry.establish_eq_ok hr
      rw [hst] at hs
      refine ⟨⟨found.1, found.2, false⟩, ?_, ?_⟩
      · rw [hremote, hest]
        simp
      · rw [hacts.directory]
        exact hs
  · rw [ht.link h' hh] at hk
    exact hacts.serves (hg.serves hk)

end Access

/-! ### Requests -/

/-- The URL whose holder a request accesses, as far as the purpose tells it. -/
def Purpose.Addressed (url : String) : Purpose → Prop
  | .connecting r _ _ | .fetching r _ => r.get.endpoint = url
  | _ => True

namespace Activity

variable {g g' g₁ : Gateway Registry Nat} {h : HolderId} {url u : String} {id : TaskId}
  {act act' : Activity Found Nat} {next : Gateway Registry Nat × Activity Found Nat}

/-- All that the task for a line uses is of one URL. -/
inductive Addressed (g : Gateway Registry Nat) (url : String) : Activity Found Nat → Prop where
  /-- The line is addressed to the URL, or to none. -/
  | answer {line : String} (hc : Command.concerns url line = true) :
    Addressed g url (.beginning (.answer line))
  /-- A holder of the URL is accessed. -/
  | requesting {p : Purpose} {a : Access Found Nat} (hp : p.Addressed url) (hm : g.Made a.holder)
      (he : g.endpoint a.holder = url) (hs : a.stage.Addressed g.remote url) :
    Addressed g url (.requesting p a)
  /-- A holder of the URL has been accessed. -/
  | returning {p : Purpose} {h : HolderId} {o : Outcome} (hp : p.Addressed url) (hm : g.Made h)
      (he : g.endpoint h = url) : Addressed g url (.returning p h o)
  /-- The line has been answered. -/
  | finished (r : Response) : Addressed g url (.finished (.answered r))

/-- What is of a URL stays so. -/
theorem Addressed.keeps (ha : act.Addressed g url) (hk : g.Keeps g') : act.Addressed g' url := by
  cases ha with
  | answer hc => exact .answer hc
  | requesting hp hm he hs =>
    exact .requesting hp (hk.made hm) ((hk.endpoint hm).trans he) (hs.keeps hk.directory hk.serves)
  | returning hp hm he => exact .returning hp (hk.made hm) ((hk.endpoint hm).trans he)
  | finished r => exact .finished r

/-- A step without an access keeps to one URL. -/
structure Within (g : Gateway Registry Nat) (url : String)
    (next : Gateway Registry Nat × Activity Found Nat) : Prop where
  /-- The gateway evolves. -/
  evolves : g.Evolves next.1
  /-- The cache entries of other URLs are as they were. -/
  cached : ∀ {u}, u ≠ url → next.1.cached? u = g.cached? u
  /-- All that the task uses is of the URL. -/
  addressed : next.2.Addressed next.1 url

theorem Within.of_counts (hw : Within g₁ url next) (hc : g.Counts g₁) : Within g url next where
  evolves := hc.evolves.trans hw.evolves
  cached hu := (hw.cached hu).trans (by rw [Gateway.cached?, hc.cache]; rfl)
  addressed := hw.addressed

theorem within_answer (r : Response) (g : Gateway Registry Nat) (url : String) :
    Within g url (answer r g) :=
  ⟨evolves_answer r g, fun _ => rfl, .finished r⟩

theorem within_connect {r : Reading} (hk : g.Keyed) (hr : r.get.endpoint = url)
    (inside again : Bool) : Within g url (connect r inside again g) := by
  subst hr
  have he := g.evolves_acquire r.get.endpoint
  obtain ⟨hm, hend⟩ := (hk.grows he.grows) _ _ (g.cached?_acquire r.get.endpoint)
  refine ⟨he, fun {u} hu => ?_, .requesting rfl hm hend trivial⟩
  change (g.acquire r.get.endpoint).2.cached? u = g.cached? u
  rcases g.acquire_cases r.get.endpoint with ⟨h, -, hacq⟩ | ⟨-, hacq⟩ <;> rw [hacq]
  exact (Table.get?_insert _ _ _ _).trans (if_neg hu)

theorem within_giveUp (hm : g.Made h) (he : g.endpoint h = url) (f : Fault) :
    Within g url (giveUp h f g) := by
  have hc := g.counts_count fun m => { m with remoteErrors := m.remoteErrors + 1 }
  have hev := hc.evolves.trans (Gateway.evolves_invalidate _ h)
  refine ⟨hev, fun {u} hu => ?_, .requesting trivial (hev.made hm) ((hev.endpoint h hm).trans he)
    trivial⟩
  refine (Gateway.cached?_invalidate _ h u).trans (if_neg ?_)
  rintro ⟨hu', -⟩
  exact hu (hu'.trans he)

theorem Turn.within {r : Reading} {inside : Bool} {failed : Fault → Prop}
    (ht : Turn h r inside failed g next) (hm : g.Made h) (he : g.endpoint h = url)
    (hr : r.get.endpoint = url) : Within g url next := by
  cases ht with
  | done hc lines => exact (within_answer _ _ _).of_counts hc
  | fetch hc r' again bean attributeName hget =>
    refine ⟨hc.evolves, fun _ => by rw [Gateway.cached?, hc.cache]; rfl, ?_⟩
    refine .requesting (by rw [Purpose.Addressed, hget]; exact hr) (hc.evolves.made hm)
      ((hc.evolves.endpoint h hm).trans he) trivial
  | giveUp hc f =>
    exact (within_giveUp (hc.evolves.made hm) ((hc.evolves.endpoint h hm).trans he) f).of_counts hc

theorem Resumed.within {p : Purpose} {o : Outcome} (hr : Resumed h g p o next) (hk : g.Keyed)
    (hp : p.Addressed url) (hm : g.Made h) (he : g.endpoint h = url) : Within g url next := by
  cases hr with
  | reconnect | refresh => exact within_connect hk hp _ _
  | refuse | gaveUp | dropped => exact within_answer _ _ _
  | goOn _ ht | settle _ ht => exact ht.within hm he hp

theorem cached?_of_evict {o : Option HolderId} (he : g.evict url = (o, g')) (hu : u ≠ url) :
    g'.cached? u = g.cached? u := by
  cases he
  exact (g.cached?_evict url u).trans (if_neg hu)

/-- A step without an access keeps to one URL. -/
theorem Quiet.within (hq : Quiet id g act next) (hk : g.Keyed) (ha : act.Addressed g url) :
    Within g url next := by
  cases hq with
  | misread hp hc =>
    exact ⟨hc.evolves, fun _ => by rw [Gateway.cached?, hc.cache]; rfl, .finished _⟩
  | get hp hc =>
    cases ha with
    | answer hu =>
      have hu := Command.eq_of_concerns hp hu
      exact (within_connect (hk.grows hc.evolves.grows) hu _ _).of_counts hc
  | @drop line url' h g₁ g' hp hc he =>
    cases ha with
    | answer hu =>
      obtain rfl := Command.eq_of_concerns hp hu
      have hk₁ := hk.grows hc.evolves.grows
      have hev := Gateway.evolves_evict he
      obtain ⟨hm, hend⟩ := hk₁ _ h (congrArg Prod.fst he)
      exact Within.of_counts ⟨hev, fun hu => cached?_of_evict he hu,
        .requesting trivial (hev.made hm) ((hev.endpoint h hm).trans hend) trivial⟩ hc
  | @dropNone line url' g₁ g' hp hc he =>
    cases ha with
    | answer hu =>
      obtain rfl := Command.eq_of_concerns hp hu
      have hev := (Gateway.evolves_evict he).trans (evolves_answer (τ := Found) (.ok []) g')
      refine Within.of_counts ⟨hev, fun {u} hu => ?_, .finished _⟩ hc
      change g'.cached? u = g₁.cached? u
      exact cached?_of_evict he hu
  | resume hr =>
    cases ha with
    | returning hp hm he => exact hr.within hk hp hm he
  | clear hact | skip hact => rcases hact with rfl | ⟨rfl, -⟩ <;> cases ha
  | _ => cases ha

/-- **A step of a request keeps to one URL**: holders and sessions stay in order, what the task uses
is still of the URL, and what is of other URLs is left as it is. -/
theorem Addressed.step (ha : act.Addressed g url) (hg : g.Ordered)
    (h : act.step id g = some (g', act')) :
    g'.Ordered ∧ g.Keeps g' ∧ act'.Addressed g' url ∧ ∀ u, u ≠ url → g.Spares u g' := by
  cases hacc : act.access? with
  | none =>
    have hw := (quiet_of_step hacc h).within hg.keyed ha
    exact ⟨hg.evolves hw.evolves, hw.evolves.keeps, hw.addressed,
      fun u hu => hw.evolves.spares (hw.cached hu)⟩
  | some a =>
    obtain ⟨n, hstep, rfl⟩ := step_access hacc h
    cases ha with
    | answer | returning | finished => cases hacc
    | @requesting p a hp hm he hs =>
      cases hacc
      subst he
      have hacts := hstep.acts hs
      have ht := hstep.touches
      refine ⟨hstep.ordered hm hs hg, ht.keeps hacts, ?_,
        fun u hu => ht.spares hu (hacts.spares hg.apart hu)⟩
      cases n with
      | inl b =>
        have hb := hstep.same.1
        refine .requesting hp ?_ ?_ (hstep.addressed hg)
        · rw [hb]
          exact ht.made_iff.2 hm
        · rw [hb]
          exact ht.endpoint _
      | inr o => exact .returning hp (ht.made_iff.2 hm) (ht.endpoint _)

/-- A request that is dropped keeps to one URL, too. -/
theorem Addressed.abandon {t : Task Found Nat} (ha : t.activity.Addressed g url)
    (hg : g.Ordered) (id : TaskId) :
    (t.abandon id g).Ordered ∧ g.Keeps (t.abandon id g) ∧
      ∀ u, u ≠ url → g.Spares u (t.abandon id g) := by
  rw [Task.abandon_eq]
  generalize (t.abandon id g).workers = workers
  generalize t.activity = act at ha
  cases hacc : act.access? with
  | none =>
    have he : g.Evolves { g with workers } := g.evolves_workers _
    exact ⟨hg.evolves he, he.keeps, fun u _ => he.spares rfl⟩
  | some a =>
    cases ha with
    | answer | returning | finished => cases hacc
    | @requesting p a hp hm he hs =>
      cases hacc
      subst he
      have ht : g.Touches a.holder { a.abandon id g with workers } :=
        (Gateway.touches_modifyLock g a.holder (·.leave id)).trans (Gateway.touches_of_eq rfl rfl)
      have hlink h : (a.abandon id g).link h = g.link h := Gateway.link_modifyLock _ _ _ _
      refine ⟨⟨hg.keyed.grows ht.grows, fun {h x} hk => ?_, hg.apart⟩,
        ht.keeps (.rest : g.remote.Acts "" _), fun u hu => ht.spares hu (.refl _ _)⟩
      have hx := hg.serves ((hlink h).symm.trans hk)
      rw [← ht.endpoint] at hx
      exact hx

end Activity

end AttributeGateway
