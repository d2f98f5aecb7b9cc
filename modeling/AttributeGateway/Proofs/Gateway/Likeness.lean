import AttributeGateway.Proofs.Gateway.Addressing
import Mathlib.Data.List.Forall2

/-!
# Gateways that are alike at a URL

Two gateways may be alike as far as one URL goes: they have the same holders of the URL, in the same
state, and their remote sides have the same endpoint and the same sessions with it. Numbers need not
be the same, as there may be other tasks, holders and sessions in one of them. Requests that are
addressed to the URL cannot tell such gateways apart.

* `Matching` — which numbers of the one stand for which of the other.
* `Lock.Like`, `Registry.Like`, `Gateway.Like` — what is the same but for numbers.
* `Lock.Like.request`, `Registry.Like.establish`, `Gateway.Like.acquire` and so on — the same change
  of both keeps them alike; `Gateway.Like.spares` says that what is done for another URL on one side
  does so, too.
-/

namespace AttributeGateway

open Registry (Found)

/-! ### Numbers -/

/-- Which tasks, holders and sessions of a system stand for which of another. -/
structure Matching where
  tasks : TaskId → TaskId → Prop
  holders : HolderId → HolderId → Prop
  sessions : Nat → Nat → Prop

namespace Matching

variable {m : Matching}

/-- No number stands for two others. -/
structure OneToOne (m : Matching) : Prop where
  tasks : Relator.BiUnique m.tasks
  holders : Relator.BiUnique m.holders
  sessions : Relator.BiUnique m.sessions

/-- Holders and sessions may have been added. -/
structure Extends (m m' : Matching) : Prop where
  tasks : m'.tasks = m.tasks
  holders : ∀ {h h'}, m.holders h h' → m'.holders h h'
  sessions : ∀ {x x'}, m.sessions x x' → m'.sessions x x'

theorem Extends.refl (m : Matching) : m.Extends m := ⟨rfl, id, id⟩

/-- One more pair of numbers. -/
def add (R : Nat → Nat → Prop) (n n' : Nat) (a a' : Nat) : Prop := R a a' ∨ a = n ∧ a' = n'

theorem biUnique_add {R : Nat → Nat → Prop} {n n' : Nat} (h : Relator.BiUnique R)
    (hn : ∀ a', ¬ R n a') (hn' : ∀ a, ¬ R a n') : Relator.BiUnique (add R n n') := by
  constructor
  · rintro a b c (ha | ⟨rfl, rfl⟩) (hb | ⟨rfl, hc⟩)
    · exact h.1 ha hb
    · exact absurd (hc ▸ ha) (hn' a)
    · exact absurd hb (hn' b)
    · rfl
  · rintro a b c (ha | ⟨rfl, rfl⟩) (hb | ⟨hc, rfl⟩)
    · exact h.2 ha hb
    · exact absurd (hc ▸ ha) (hn b)
    · exact absurd hb (hn c)
    · rfl

/-- One more pair of holders. -/
def addHolder (m : Matching) (h h' : HolderId) : Matching :=
  { m with holders := add m.holders h h' }

/-- One more pair of sessions. -/
def addSession (m : Matching) (x x' : Nat) : Matching :=
  { m with sessions := add m.sessions x x' }

theorem extends_addHolder (m : Matching) (h h' : HolderId) : m.Extends (m.addHolder h h') :=
  ⟨rfl, .inl, id⟩

theorem extends_addSession (m : Matching) (x x' : Nat) : m.Extends (m.addSession x x') :=
  ⟨rfl, id, .inl⟩

theorem OneToOne.addHolder {h h' : HolderId} (hm : m.OneToOne) (hh : ∀ k', ¬ m.holders h k')
    (hh' : ∀ k, ¬ m.holders k h') : (m.addHolder h h').OneToOne :=
  ⟨hm.tasks, biUnique_add hm.holders hh hh', hm.sessions⟩

theorem OneToOne.addSession {x x' : Nat} (hm : m.OneToOne) (hx : ∀ y', ¬ m.sessions x y')
    (hx' : ∀ y, ¬ m.sessions y x') : (m.addSession x x').OneToOne :=
  ⟨hm.tasks, hm.holders, biUnique_add hm.sessions hx hx'⟩

end Matching

/-! ### Locks -/

namespace Lock

variable {T : TaskId → TaskId → Prop} {l l' : Lock}
  {held held' queue queue' : List (TaskId × LockMode)} {id id' : TaskId} {mode : LockMode}

/-- An entry of a task that stands for another, in the same mode. -/
def LikeEntry (T : TaskId → TaskId → Prop) (e e' : TaskId × LockMode) : Prop :=
  T e.1 e'.1 ∧ e.2 = e'.2

/-- The same tasks have the lock and wait for it, in the same order. -/
structure Like (T : TaskId → TaskId → Prop) (l l' : Lock) : Prop where
  held : List.Forall₂ (LikeEntry T) l.held l'.held
  queue : List.Forall₂ (LikeEntry T) l.queue l'.queue

theorem like_empty : ({} : Lock).Like T {} := ⟨.nil, .nil⟩

theorem admits_eq (h : List.Forall₂ (LikeEntry T) held held') (mode : LockMode) :
    admits held mode = admits held' mode := by
  cases mode with
  | exclusive => cases h <;> rfl
  | shared =>
    induction h with
    | nil => rfl
    | cons he _ ih =>
      simp only [admits, List.all_cons] at ih ⊢
      rw [ih, he.2]

theorem like_serve (hh : List.Forall₂ (LikeEntry T) held held')
    (hq : List.Forall₂ (LikeEntry T) queue queue') :
    (serve held queue).Like T (serve held' queue') := by
  induction hq generalizing held held' with
  | nil => exact ⟨hh, .nil⟩
  | cons he hq ih =>
    rw [serve, serve, he.2, admits_eq hh]
    split
    · exact ih (List.rel_append hh (.cons he .nil))
    · exact ⟨hh, .cons he hq⟩

theorem Like.request (h : l.Like T l') (hid : T id id') (mode : LockMode) :
    (l.request id mode).Like T (l'.request id' mode) :=
  like_serve h.held (List.rel_append h.queue (.cons ⟨hid, rfl⟩ .nil))

theorem Like.leave (hT : Relator.BiUnique T) (h : l.Like T l') (hid : T id id') :
    (l.leave id).Like T (l'.leave id') := by
  have hfilter {es es' : List (TaskId × LockMode)} (he : List.Forall₂ (LikeEntry T) es es') :
      List.Forall₂ (LikeEntry T) (es.filter fun h => h.1 ≠ id) (es'.filter fun h => h.1 ≠ id') := by
    refine List.rel_filter (fun e e' he => ?_) he
    simp [Relator.rel_eq hT he.1 hid]
  exact like_serve (hfilter h.held) (hfilter h.queue)

theorem Like.downgrade (hT : Relator.BiUnique T) (h : l.Like T l') (hid : T id id') :
    (l.downgrade id).Like T (l'.downgrade id') := by
  refine like_serve (List.rel_map (fun e e' he => ?_) h.held) h.queue
  have heq := Relator.rel_eq hT he.1 hid
  by_cases h₁ : e.1 = id
  · rw [if_pos h₁, if_pos (heq.1 h₁)]
    exact ⟨hid, rfl⟩
  · rw [if_neg h₁, if_neg (mt heq.2 h₁)]
    exact he

theorem Like.mem_held (hT : Relator.BiUnique T) (h : l.Like T l') (hid : T id id')
    (hl : (id, mode) ∈ l.held) : (id', mode) ∈ l'.held := by
  have hheld := h.held
  generalize l.held = es at hl hheld
  generalize l'.held = es' at hheld
  induction hheld with
  | nil => cases hl
  | @cons e e' _ _ he _ ih =>
    rcases List.mem_cons.1 hl with rfl | hl
    · obtain ⟨k, mode'⟩ := e'
      obtain ⟨hk, rfl⟩ := he
      cases hT.2 hk hid
      exact List.mem_cons_self
    · exact List.mem_cons_of_mem _ (ih hl)

end Lock

/-! ### Remote sides -/

namespace Registry

variable {X : Nat → Nat → Prop} {u : String} {r r' : Registry} {x x' : Nat} {found : Found}

/-- The endpoint of a URL is the same, and so are the sessions with it that stand for each other. -/
structure Like (X : Nat → Nat → Prop) (u : String) (r r' : Registry) : Prop where
  /-- URLs stand for the same endpoints. -/
  directory : r'.directory = r.directory
  /-- The endpoint of the URL is the same. -/
  endpoint : ∀ {i}, r.directory.get? u = some i → r'.endpoints[i]? = r.endpoints[i]?
  /-- Sessions that stand for each other are the same, and with the endpoint of the URL. -/
  session : ∀ {x x'}, X x x' → ∃ session, r.sessions[x]? = some session ∧
    r'.sessions[x']? = some session ∧ r.directory.get? u = some session.endpoint

theorem Like.spares {r₁ : Registry} (h : r.Like X u r') (hs : r.Spares u r₁) : r₁.Like X u r' where
  directory := h.directory.trans hs.directory.symm
  endpoint hi := by
    rw [hs.directory] at hi
    rw [h.endpoint hi, hs.endpoint hi]
  session hx := by
    obtain ⟨session, hx, hx', hi⟩ := h.session hx
    exact ⟨session, hs.session hx hi, hx', by rwa [hs.directory]⟩

theorem Like.modifyEndpoint (h : r.Like X u r') (i : Nat) (f : Endpoint → Endpoint) :
    (r.modifyEndpoint i f).Like X u (r'.modifyEndpoint i f) where
  directory := h.directory
  endpoint hi := by
    simp only [Registry.modifyEndpoint, List.getElem?_modify]
    rw [h.endpoint hi]
  session hx := h.session hx

/-- Looking for the endpoint gives the same. -/
theorem Like.reach (h : r.Like X u r') : (Remote.reach u r').1 = (Remote.reach u r).1 ∧
    (Remote.reach u r).2.Like X u (Remote.reach u r').2 := by
  change (Registry.reach u r').1 = (Registry.reach u r).1 ∧
    (Registry.reach u r).2.Like X u (Registry.reach u r').2
  rw [Registry.reach, Registry.reach, h.directory]
  split
  · exact ⟨rfl, h⟩
  · exact ⟨rfl, h.modifyEndpoint _ _⟩

/-- A session through which the endpoint is read is the next one on either side. -/
theorem Like.append (h : r.Like X u r') (session : Session)
    (hi : r.directory.get? u = some session.endpoint) :
    { r with sessions := r.sessions ++ [session] }.Like
      (Matching.add X r.sessions.length r'.sessions.length) u
      { r' with sessions := r'.sessions ++ [session] } where
  directory := h.directory
  endpoint := h.endpoint
  session {x x'} hx := by
    rcases hx with hx | ⟨rfl, rfl⟩
    · obtain ⟨session, hx, hx', hi⟩ := h.session hx
      refine ⟨session, ?_, ?_, hi⟩
      · rw [List.getElem?_append_left (List.getElem?_eq_some_iff.1 hx).1]
        exact hx
      · rw [List.getElem?_append_left (List.getElem?_eq_some_iff.1 hx').1]
        exact hx'
    · exact ⟨session, by simp, by simp, hi⟩

theorem Like.not_length (h : r.Like X u r') :
    (∀ x', ¬ X r.sessions.length x') ∧ ∀ x, ¬ X x r'.sessions.length := by
  constructor
  · intro x' hx
    obtain ⟨session, hx, -⟩ := h.session hx
    exact Nat.lt_irrefl _ (List.getElem?_eq_some_iff.1 hx).1
  · intro x hx
    obtain ⟨session, -, hx, -⟩ := h.session hx
    exact Nat.lt_irrefl _ (List.getElem?_eq_some_iff.1 hx).1

/-- Opening a session with the endpoint gives the same. -/
theorem Like.establish (h : r.Like X u r') (hi : r.directory.get? u = some found.1) :
    (∃ error, Remote.establish found r = (.error error, r) ∧
        Remote.establish found r' = (.error error, r')) ∨
      ∃ r₁ r₁', Remote.establish found r = (.ok r.sessions.length, r₁) ∧
        Remote.establish found r' = (.ok r'.sessions.length, r₁') ∧
        r₁.Like (Matching.add X r.sessions.length r'.sessions.length) u r₁' := by
  change (∃ error, Registry.establish found r = (.error error, r) ∧
      Registry.establish found r' = (.error error, r')) ∨
    ∃ r₁ r₁', Registry.establish found r = (.ok r.sessions.length, r₁) ∧
      Registry.establish found r' = (.ok r'.sessions.length, r₁') ∧
      r₁.Like (Matching.add X r.sessions.length r'.sessions.length) u r₁'
  rw [Registry.establish, Registry.establish, h.endpoint hi]
  split
  · exact .inl ⟨_, rfl, rfl⟩
  · refine .inr ⟨_, _, rfl, rfl, ?_⟩
    exact (h.modifyEndpoint found.1 fun e => { e with openSessions := e.openSessions + 1 }).append
      ⟨found.1, found.2, false⟩ hi

/-- Reading through sessions that stand for each other gives the same. -/
theorem Like.read (h : r.Like X u r') (hx : X x x') (bean attributeName : String) :
    r'.read x' bean attributeName = r.read x bean attributeName := by
  obtain ⟨session, hx, hx', hi⟩ := h.session hx
  rw [Registry.read, Registry.read, hx, hx']
  split
  · next i url heq =>
    cases heq
    rw [h.endpoint hi]
  · rfl

/-- Closing sessions that stand for each other comes to the same. -/
theorem Like.closeSession (hX : Relator.BiUnique X) (h : r.Like X u r') (hx : X x x') :
    (r.closeSession x).Like X u (r'.closeSession x') := by
  obtain ⟨session, hs, hs', hi⟩ := h.session hx
  have hdirectory (r : Registry) (x : Nat) : (r.closeSession x).directory = r.directory := by
    rw [Registry.closeSession]
    split <;> rfl
  refine ⟨by rw [hdirectory, hdirectory, h.directory], fun {i} hi => ?_, fun {y y'} hy => ?_⟩
  · rw [hdirectory] at hi
    rw [Registry.closeSession, Registry.closeSession, hs, hs']
    split
    · exact (h.modifyEndpoint _ _).endpoint hi
    · exact h.endpoint hi
  · rw [sessions_closeSession, sessions_closeSession, hdirectory]
    by_cases hxy : y = x
    · rw [if_pos hxy, if_pos ((Relator.rel_eq hX hy hx).1 hxy), hs, hs']
      exact ⟨_, rfl, rfl, hi⟩
    · rw [if_neg hxy, if_neg (mt (Relator.rel_eq hX hy hx).2 hxy)]
      exact h.session hy

end Registry

/-! ### Gateways -/

/-- Both holders are disconnected, both are closed, or they have sessions that stand for each
other. -/
inductive Link.Like (X : Nat → Nat → Prop) : Link Nat → Link Nat → Prop where
  | disconnected : Like X .disconnected .disconnected
  | connected {x x' : Nat} (h : X x x') : Like X (.connected x) (.connected x')
  | closed : Like X .closed .closed

theorem Link.Like.mono {X X' : Nat → Nat → Prop} {k k' : Link Nat} (h : k.Like X k')
    (hX : ∀ {x x'}, X x x' → X' x x') : k.Like X' k' := by
  cases h with
  | disconnected => exact .disconnected
  | connected h => exact .connected (hX h)
  | closed => exact .closed

section
variable {X : Nat → Nat → Prop} {k k' : Link Nat} {x : Nat}

theorem Link.Like.exists_connected (h : k.Like X k') (hk : k = .connected x) :
    ∃ x', X x x' ∧ k' = .connected x' := by
  cases h with
  | connected hx =>
    cases hk
    exact ⟨_, hx, rfl⟩
  | _ => cases hk

theorem Link.Like.eq_disconnected (h : k.Like X k') (hk : k = .disconnected) :
    k' = .disconnected := by
  cases h <;> first | rfl | cases hk

theorem Link.Like.eq_closed (h : k.Like X k') (hk : k = .closed) : k' = .closed := by
  cases h <;> first | rfl | cases hk

theorem Link.Like.ne_connected (h : k.Like X k') (hk : ∀ x, k ≠ .connected x) (x' : Nat) :
    k' ≠ .connected x' := by
  cases h with
  | connected => exact absurd rfl (hk _)
  | _ => nofun

end

/-- Two holders of a URL are in the same state. -/
structure Holder.Like (m : Matching) (u : String) (x x' : Holder Nat) : Prop where
  endpoint : x.endpoint = u
  endpoint' : x'.endpoint = u
  lock : x.lock.Like m.tasks x'.lock
  link : x.link.Like m.sessions x'.link

theorem Holder.Like.mono {m m' : Matching} {u : String} {x x' : Holder Nat} (h : x.Like m u x')
    (hm : m.Extends m') : x.Like m' u x' :=
  ⟨h.endpoint, h.endpoint', by rw [hm.tasks]; exact h.lock, h.link.mono hm.sessions⟩

namespace Gateway

variable {m m' : Matching} {u : String} {g g₁ g' g₁' : Gateway Registry Nat} {h h' k k' : HolderId}

/-- As far as a URL goes, two gateways are the same but for numbers. -/
structure Like (m : Matching) (u : String) (g g' : Gateway Registry Nat) : Prop where
  /-- Holders that stand for each other have been made. -/
  made : ∀ {h h'}, m.holders h h' → g.Made h ∧ g'.Made h'
  /-- They are holders of the URL, in the same state. -/
  holder : ∀ {h h'}, m.holders h h' → (g.holder h).Like m u (g'.holder h')
  /-- The cached holders stand for each other. -/
  cached : Option.Rel m.holders (g.cached? u) (g'.cached? u)
  /-- The remote sides are the same. -/
  remote : g.remote.Like m.sessions u g'.remote

theorem Like.endpoint (hg : g.Like m u g') (hh : m.holders h h') :
    g.endpoint h = u ∧ g'.endpoint h' = u :=
  ⟨(hg.holder hh).endpoint, (hg.holder hh).endpoint'⟩

/-- What spares the URL on one side keeps the gateways alike. -/
theorem Like.spares (hg : g.Like m u g') (hs : g.Spares u g₁) : g₁.Like m u g' where
  made hh := ⟨hs.made (hg.made hh).1, (hg.made hh).2⟩
  holder {h h'} hh := by
    obtain ⟨he, he', hl, hk⟩ := hg.holder hh
    have hm := (hg.made hh).1
    refine ⟨(hs.endpoint hm).trans he, he', ?_, ?_⟩
    · have hlock : (g₁.holder h).lock = (g.holder h).lock := hs.lock hm he
      rwa [hlock]
    · have hlink : (g₁.holder h).link = (g.holder h).link := hs.link hm he
      rwa [hlink]
  cached := by
    rw [hs.cached]
    exact hg.cached
  remote := hg.remote.spares hs.remote

/-- Counting keeps gateways alike. -/
theorem Like.counts (hg : g.Like m u g') (hc : g.Counts g₁) (hc' : g'.Counts g₁') :
    g₁.Like m u g₁' where
  made hh := by
    rw [Made, Made, hc.holders, hc'.holders]
    exact hg.made hh
  holder hh := by
    rw [Gateway.holder, Gateway.holder, hc.holders, hc'.holders]
    exact hg.holder hh
  cached := by
    rw [Gateway.cached?, Gateway.cached?, hc.cache, hc'.cache]
    exact hg.cached
  remote := by
    rw [hc.remote, hc'.remote]
    exact hg.remote

/-- Taking a request line up keeps gateways alike. -/
theorem Like.takeUp (hg : g.Like m u g') (n n' : Nat) (f f' : Metrics → Metrics) :
    ({ g with commands := n }.count f).Like m u ({ g' with commands := n' }.count f') :=
  hg.counts ⟨rfl, rfl, rfl⟩ ⟨rfl, rfl, rfl⟩

/-- The same change of holders that stand for each other keeps gateways alike. -/
theorem Like.modifyHolder (hm : m.OneToOne) (hg : g.Like m u g') (hh : m.holders h h')
    {f f' : Holder Nat → Holder Nat} (hf : ∀ x x', x.Like m u x' → (f x).Like m u (f' x')) :
    (g.modifyHolder h f).Like m u (g'.modifyHolder h' f') where
  made hk := by
    simp only [Made, Gateway.modifyHolder, List.length_modify]
    exact hg.made hk
  holder {k k'} hk := by
    have heq := Relator.rel_eq hm.holders hk hh
    rw [holder_modifyHolder, holder_modifyHolder]
    by_cases hkh : k = h
    · rw [if_pos ⟨hkh, (hg.made hh).1⟩, if_pos ⟨heq.1 hkh, (hg.made hh).2⟩]
      exact hf _ _ (hg.holder hh)
    · rw [if_neg fun hkh' => hkh hkh'.1, if_neg fun hkh' => hkh (heq.2 hkh'.1)]
      exact hg.holder hk
  cached := hg.cached
  remote := hg.remote

theorem Like.modifyLock (hm : m.OneToOne) (hg : g.Like m u g') (hh : m.holders h h')
    {f f' : Lock → Lock} (hf : ∀ {l l'}, l.Like m.tasks l' → (f l).Like m.tasks (f' l')) :
    (g.modifyLock h f).Like m u (g'.modifyLock h' f') :=
  hg.modifyHolder hm hh fun _ _ hx => ⟨hx.endpoint, hx.endpoint', hf hx.lock, hx.link⟩

theorem Like.setLink (hm : m.OneToOne) (hg : g.Like m u g') (hh : m.holders h h')
    {k k' : Link Nat} (hk : k.Like m.sessions k') : (g.setLink h k).Like m u (g'.setLink h' k') :=
  hg.modifyHolder hm hh fun _ _ hx => ⟨hx.endpoint, hx.endpoint', hx.lock, hk⟩

/-- The remote sides go on in the same way, where sessions may have been added. -/
theorem Like.setRemote (hg : g.Like m u g') (hm : m.Extends m') (hh : m'.holders = m.holders)
    {r r' : Registry} (hr : r.Like m'.sessions u r') :
    { g with remote := r }.Like m' u { g' with remote := r' } where
  made hk := hg.made (hh ▸ hk)
  holder hk := (hg.holder (hh ▸ hk)).mono hm
  cached := by
    rw [hh]
    exact hg.cached
  remote := hr

/-- Permits make no difference. -/
theorem Like.setWorkers (hg : g.Like m u g') (workers workers' : Permits) :
    { g with workers }.Like m u { g' with workers := workers' } :=
  ⟨hg.made, hg.holder, hg.cached, hg.remote⟩

/-- Taking the holder of the URL out of the cache. -/
theorem Like.evict (hg : g.Like m u g') {o o' : Option HolderId} (he : g.evict u = (o, g₁))
    (he' : g'.evict u = (o', g₁')) : Option.Rel m.holders o o' ∧ g₁.Like m u g₁' := by
  cases he
  cases he'
  refine ⟨hg.cached, hg.made, hg.holder, ?_, hg.remote⟩
  change Option.Rel _ ((g.evict u).2.cached? u) ((g'.evict u).2.cached? u)
  rw [cached?_evict, cached?_evict, if_pos rfl, if_pos rfl]
  exact .none

/-- Taking a holder out of the cache if it is there. -/
theorem Like.invalidate (hm : m.OneToOne) (hg : g.Like m u g') (hh : m.holders h h') :
    (g.invalidate h).Like m u (g'.invalidate h') where
  made hk := by
    rw [Made, Made, holders_invalidate, holders_invalidate]
    exact hg.made hk
  holder hk := by
    rw [Gateway.holder, Gateway.holder, holders_invalidate, holders_invalidate]
    exact hg.holder hk
  cached := by
    obtain ⟨he, he'⟩ := hg.endpoint hh
    rw [cached?_invalidate, cached?_invalidate, he, he']
    have hc := hg.cached
    generalize g.cached? u = o at hc
    generalize g'.cached? u = o' at hc
    cases hc with
    | none => simp
    | @some k k' hk =>
      have heq := Relator.rel_eq hm.holders hk hh
      by_cases hkh : k = h
      · rw [if_pos ⟨rfl, congrArg some hkh⟩, if_pos ⟨rfl, congrArg some (heq.1 hkh)⟩]
        exact .none
      · rw [if_neg fun h => hkh (Option.some.inj h.2),
          if_neg fun h => hkh (heq.2 (Option.some.inj h.2))]
        exact .some hk
  remote := by
    rw [remote_invalidate, remote_invalidate]
    exact hg.remote

/-- The cached holder is looked up on either side, or it is made on either side. -/
theorem Like.acquire (hm : m.OneToOne) (hg : g.Like m u g') :
    ∃ m', m.Extends m' ∧ m'.OneToOne ∧ m'.holders (g.acquire u).1 (g'.acquire u).1 ∧
      (g.acquire u).2.Like m' u (g'.acquire u).2 := by
  have hc := hg.cached
  rcases g.acquire_cases u with ⟨h, hu, hacq⟩ | ⟨hu, hacq⟩ <;>
    rcases g'.acquire_cases u with ⟨h', hu', hacq'⟩ | ⟨hu', hacq'⟩ <;>
    rw [hu, hu'] at hc <;> rw [hacq, hacq']
  · cases hc with
    | some hh => exact ⟨m, .refl m, hm, hh, hg⟩
  · cases hc
  · cases hc
  · have hnew : ∀ h', ¬ m.holders g.holders.length h' := fun h' hh =>
      Nat.lt_irrefl _ (hg.made hh).1
    have hnew' : ∀ h, ¬ m.holders h g'.holders.length := fun h hh =>
      Nat.lt_irrefl _ (hg.made hh).2
    have hext := m.extends_addHolder g.holders.length g'.holders.length
    refine ⟨_, hext, hm.addHolder hnew hnew', .inr ⟨rfl, rfl⟩, ?_, ?_, ?_, hg.remote⟩
    · rintro h h' (hh | ⟨rfl, rfl⟩)
      · obtain ⟨hmade, hmade'⟩ := hg.made hh
        exact ⟨(g.evolves_addHolder u).made hmade, (g'.evolves_addHolder u).made hmade'⟩
      · simp [Made, gauge, count, addHolder]
    · intro h h' hh
      change ((g.addHolder u).2.holder h).Like _ u ((g'.addHolder u).2.holder h')
      rw [holder_addHolder, holder_addHolder]
      rcases hh with hh | ⟨rfl, rfl⟩
      · obtain ⟨hmade, hmade'⟩ := hg.made hh
        rw [if_neg (Nat.ne_of_lt hmade), if_neg (Nat.ne_of_lt hmade')]
        exact (hg.holder hh).mono hext
      · rw [if_pos rfl, if_pos rfl]
        exact ⟨rfl, rfl, Lock.like_empty, .disconnected⟩
    · change Option.Rel _ ((g.cache.insert u _).get? u) ((g'.cache.insert u _).get? u)
      rw [Table.get?_insert, Table.get?_insert, if_pos rfl, if_pos rfl]
      exact .some (.inr ⟨rfl, rfl⟩)

end Gateway

end AttributeGateway
