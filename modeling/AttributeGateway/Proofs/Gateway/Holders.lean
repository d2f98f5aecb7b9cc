import AttributeGateway.Gateway.Basic
import AttributeGateway.Proofs.Gateway.Locks
import Mathlib.Data.List.GetD

/-!
# What happens to holders

The steps of tasks change a gateway in two ways. A step of an access *touches* one holder: it
changes the lock and the link of that holder and nothing else that has to do with holders.
Everything else that a task does lets the gateway *evolve*: holders may be made, the cache may lose
holders or take in one that has just been made, but no lock and no link changes. A number that has
been given to no holder yet looks like a new holder, whose lock is free and whose link is
disconnected.

* `Touches` — what changes one holder.
* `Evolves` — what changes none; `evolves_acquire`, `evolves_evict`, `evolves_invalidate`.
-/

namespace AttributeGateway

namespace Gateway

variable {ρ σ : Type} {g g' g'' : Gateway ρ σ} {h h' : HolderId} {url u : String}

/-- The lock of a holder. -/
def lock (g : Gateway ρ σ) (h : HolderId) : Lock := (g.holder h).lock

/-- The link of a holder. -/
def link (g : Gateway ρ σ) (h : HolderId) : Link σ := (g.holder h).link

/-- The URL of the endpoint of a holder. -/
def endpoint (g : Gateway ρ σ) (h : HolderId) : String := (g.holder h).endpoint

/-- Whether a number has been given to a holder. -/
def Made (g : Gateway ρ σ) (h : HolderId) : Prop := h < g.holders.length

instance (g : Gateway ρ σ) (h : HolderId) : Decidable (g.Made h) :=
  inferInstanceAs (Decidable (h < g.holders.length))

/-! ### Holders that have not been made -/

theorem holder_of_not_made (hh : ¬ g.Made h) : g.holder h = { endpoint := "" } := by
  rw [holder, List.getD_eq_default _ _ (Nat.le_of_not_lt hh)]

theorem lock_of_not_made (hh : ¬ g.Made h) : g.lock h = {} := by
  rw [lock, holder_of_not_made hh]

theorem link_of_not_made (hh : ¬ g.Made h) : g.link h = .disconnected := by
  rw [link, holder_of_not_made hh]

/-- A lock with an entry belongs to a holder that has been made. -/
theorem made_of_mem_entries {e : TaskId × LockMode} (he : e ∈ (g.lock h).entries) : g.Made h := by
  by_contra hh
  rw [lock_of_not_made hh] at he
  simp [Lock.entries] at he

theorem made_of_mem_held {e : TaskId × LockMode} (he : e ∈ (g.lock h).held) : g.Made h :=
  made_of_mem_entries (Lock.mem_entries_of_held he)

/-! ### Touching one holder -/

/-- At most the lock and the link of one holder have changed. -/
structure Touches (h : HolderId) (g g' : Gateway ρ σ) : Prop where
  /-- No holder is made. -/
  length : g'.holders.length = g.holders.length
  /-- The cache is as it was. -/
  cache : g'.cache = g.cache
  /-- No holder has another endpoint. -/
  endpoint : ∀ h', g'.endpoint h' = g.endpoint h'
  /-- The locks of the others are as they were. -/
  lock : ∀ h', h' ≠ h → g'.lock h' = g.lock h'
  /-- The links of the others are as they were. -/
  link : ∀ h', h' ≠ h → g'.link h' = g.link h'

theorem Touches.trans (h₁ : Touches h g g') (h₂ : Touches h g' g'') : Touches h g g'' where
  length := h₂.length.trans h₁.length
  cache := h₂.cache.trans h₁.cache
  endpoint h' := (h₂.endpoint h').trans (h₁.endpoint h')
  lock h' hne := (h₂.lock h' hne).trans (h₁.lock h' hne)
  link h' hne := (h₂.link h' hne).trans (h₁.link h' hne)

/-- Nothing that has to do with holders has changed. -/
theorem touches_of_eq (hh : g'.holders = g.holders) (hc : g'.cache = g.cache) :
    Touches h g g' := by
  have hg : ∀ h', g'.holder h' = g.holder h' := fun h' => by rw [holder, holder, hh]
  exact ⟨by rw [hh], hc, fun h' => by rw [Gateway.endpoint, Gateway.endpoint, hg],
    fun h' _ => by rw [Gateway.lock, Gateway.lock, hg],
    fun h' _ => by rw [Gateway.link, Gateway.link, hg]⟩

theorem Touches.made_iff (ht : Touches h g g') : g'.Made h' ↔ g.Made h' := by
  rw [Made, Made, ht.length]

theorem Touches.cached? (ht : Touches h g g') : g'.cached? u = g.cached? u := by
  rw [Gateway.cached?, Gateway.cached?, ht.cache]

theorem holder_modifyHolder (g : Gateway ρ σ) (h h' : HolderId) (f : Holder σ → Holder σ) :
    (g.modifyHolder h f).holder h' =
      if h' = h ∧ g.Made h then f (g.holder h) else g.holder h' := by
  simp only [holder, modifyHolder, List.getD_eq_getElem?_getD, List.getElem?_modify, Made]
  by_cases hh : h' = h
  · subst hh
    by_cases hm : h' < g.holders.length
    · simp [hm]
    · simp [hm]
  · simp [hh, Ne.symm hh]

theorem touches_modifyHolder {f : Holder σ → Holder σ}
    (hf : ∀ x, (f x).endpoint = x.endpoint) : Touches h g (g.modifyHolder h f) where
  length := List.length_modify _ _ _
  cache := rfl
  endpoint h' := by
    rw [Gateway.endpoint, Gateway.endpoint, holder_modifyHolder]
    split
    · next hh => rw [hf, hh.1]
    · rfl
  lock h' hne := by simp [Gateway.lock, holder_modifyHolder, hne]
  link h' hne := by simp [Gateway.link, holder_modifyHolder, hne]

theorem touches_modifyLock (g : Gateway ρ σ) (h : HolderId) (f : Lock → Lock) :
    Touches h g (g.modifyLock h f) := touches_modifyHolder fun _ => rfl

theorem touches_setLink (g : Gateway ρ σ) (h : HolderId) (k : Link σ) :
    Touches h g (g.setLink h k) := touches_modifyHolder fun _ => rfl

@[simp] theorem made_modifyLock {f : Lock → Lock} : (g.modifyLock h f).Made h' ↔ g.Made h' :=
  (touches_modifyLock g h f).made_iff

@[simp] theorem made_setLink {k : Link σ} : (g.setLink h k).Made h' ↔ g.Made h' :=
  (touches_setLink g h k).made_iff

theorem lock_modifyLock (hh : g.Made h) (f : Lock → Lock) :
    (g.modifyLock h f).lock h = f (g.lock h) := by
  simp [lock, modifyLock, holder_modifyHolder, hh]

theorem lock_modifyLock_of_not_made (hh : ¬ g.Made h) (f : Lock → Lock) :
    (g.modifyLock h f).lock h = g.lock h := by
  simp [lock, modifyLock, holder_modifyHolder, hh]

/-- The lock of a holder that has not been made does not change. -/
theorem lock_modifyLock_cases (g : Gateway ρ σ) (h : HolderId) (f : Lock → Lock) :
    (g.modifyLock h f).lock h = f (g.lock h) ∨ (g.modifyLock h f).lock h = g.lock h := by
  by_cases hh : g.Made h
  · exact .inl (lock_modifyLock hh f)
  · exact .inr (lock_modifyLock_of_not_made hh f)

/-- Nobody gives back the lock of a holder that has not been made. -/
theorem lock_modifyLock_leave (g : Gateway ρ σ) (h : HolderId) (id : TaskId) :
    (g.modifyLock h (·.leave id)).lock h = (g.lock h).leave id := by
  by_cases hh : g.Made h
  · exact lock_modifyLock hh _
  · rw [lock_modifyLock_of_not_made hh, lock_of_not_made hh]
    rfl

@[simp] theorem link_modifyLock (g : Gateway ρ σ) (h h' : HolderId) (f : Lock → Lock) :
    (g.modifyLock h f).link h' = g.link h' := by
  rw [link, modifyLock, holder_modifyHolder]
  split
  · next hh => rw [link, hh.1]
  · rfl

theorem link_setLink (hh : g.Made h) (k : Link σ) : (g.setLink h k).link h = k := by
  simp [link, setLink, holder_modifyHolder, hh]

@[simp] theorem lock_setLink (g : Gateway ρ σ) (h h' : HolderId) (k : Link σ) :
    (g.setLink h k).lock h' = g.lock h' := by
  rw [lock, setLink, holder_modifyHolder]
  split
  · next hh => rw [lock, hh.1]
  · rfl

/-! ### Evolving -/

/-- Holders may have been made and the cache may have changed, but no lock and no link has. -/
structure Evolves (g g' : Gateway ρ σ) : Prop where
  /-- Nothing has been asked of the remote side. -/
  remote : g'.remote = g.remote
  /-- No holder is lost. -/
  length_le : g.holders.length ≤ g'.holders.length
  /-- No holder has another endpoint. -/
  endpoint : ∀ h, g.Made h → g'.endpoint h = g.endpoint h
  /-- No lock has changed. -/
  lock : ∀ h, g'.lock h = g.lock h
  /-- No link has changed. -/
  link : ∀ h, g'.link h = g.link h
  /-- What is cached was cached, or has just been made for its URL. -/
  cached : ∀ u h, g'.cached? u = some h →
    g.cached? u = some h ∨ ¬ g.Made h ∧ g'.Made h ∧ g'.endpoint h = u

theorem Evolves.made (he : Evolves g g') (hh : g.Made h) : g'.Made h :=
  Nat.lt_of_lt_of_le hh he.length_le

/-- Holders, cache and remote side are as they were. -/
theorem evolves_of_eq (hh : g'.holders = g.holders) (hc : g'.cache = g.cache)
    (hr : g'.remote = g.remote) : Evolves g g' := by
  have hg : ∀ h', g'.holder h' = g.holder h' := fun h' => by rw [holder, holder, hh]
  refine ⟨hr, Nat.le_of_eq (by rw [hh]), fun h' _ => by rw [Gateway.endpoint, Gateway.endpoint, hg],
    fun h' => by rw [Gateway.lock, Gateway.lock, hg],
    fun h' => by rw [Gateway.link, Gateway.link, hg], fun u h' hu => .inl ?_⟩
  rwa [cached?, hc] at hu

theorem Evolves.refl (g : Gateway ρ σ) : Evolves g g := evolves_of_eq rfl rfl rfl

theorem evolves_workers (g : Gateway ρ σ) (workers : Permits) : Evolves g { g with workers } :=
  evolves_of_eq rfl rfl rfl

theorem Evolves.trans (h₁ : Evolves g g') (h₂ : Evolves g' g'') : Evolves g g'' where
  remote := h₂.remote.trans h₁.remote
  length_le := Nat.le_trans h₁.length_le h₂.length_le
  endpoint h hh := (h₂.endpoint h (h₁.made hh)).trans (h₁.endpoint h hh)
  lock h := (h₂.lock h).trans (h₁.lock h)
  link h := (h₂.link h).trans (h₁.link h)
  cached u h hu := by
    rcases h₂.cached u h hu with hu | ⟨hn, hm, hu⟩
    · rcases h₁.cached u h hu with hu | ⟨hn, hm, hu⟩
      · exact .inl hu
      · exact .inr ⟨hn, h₂.made hm, (h₂.endpoint h hm).trans hu⟩
    · exact .inr ⟨fun hm' => hn (h₁.made hm'), hm, hu⟩

/-- A gateway that has only counted. -/
structure Counts (g g' : Gateway ρ σ) : Prop where
  /-- Nothing has been asked of the remote side. -/
  remote : g'.remote = g.remote
  /-- The holders are as they were. -/
  holders : g'.holders = g.holders
  /-- The cache is as it was. -/
  cache : g'.cache = g.cache

theorem Counts.refl (g : Gateway ρ σ) : Counts g g := ⟨rfl, rfl, rfl⟩

theorem Counts.trans (h₁ : Counts g g') (h₂ : Counts g' g'') : Counts g g'' :=
  ⟨h₂.remote.trans h₁.remote, h₂.holders.trans h₁.holders, h₂.cache.trans h₁.cache⟩

theorem Counts.evolves (hc : Counts g g') : Evolves g g' :=
  evolves_of_eq hc.holders hc.cache hc.remote

theorem counts_count (g : Gateway ρ σ) (f : Metrics → Metrics) : Counts g (g.count f) :=
  ⟨rfl, rfl, rfl⟩

theorem counts_countUnavailable (g : Gateway ρ σ) : Counts g g.countUnavailable := ⟨rfl, rfl, rfl⟩

/-! ### The cache -/

theorem cached?_gauge : g.gauge.cached? u = g.cached? u := rfl

theorem holder_addHolder (g : Gateway ρ σ) (url : String) (h : HolderId) :
    (g.addHolder url).2.holder h =
      if h = g.holders.length then { endpoint := url } else g.holder h := by
  simp only [holder, addHolder, List.getD_eq_getElem?_getD]
  rcases Nat.lt_trichotomy h g.holders.length with hh | hh | hh
  · rw [List.getElem?_append_left hh, if_neg (Nat.ne_of_lt hh)]
  · simp [hh]
  · have hlen : (g.holders ++ [({ endpoint := url } : Holder σ)]).length ≤ h := by
      simpa [Nat.succ_le_iff] using hh
    rw [List.getElem?_eq_none hlen, List.getElem?_eq_none (Nat.le_of_lt hh),
      if_neg (Nat.ne_of_gt hh)]

theorem evolves_addHolder (g : Gateway ρ σ) (url : String) :
    Evolves g (g.addHolder url).2 where
  remote := rfl
  length_le := by simp [addHolder]
  endpoint h hh := by
    rw [Gateway.endpoint, Gateway.endpoint, holder_addHolder, if_neg (Nat.ne_of_lt hh)]
  lock h := by
    rw [Gateway.lock, Gateway.lock, holder_addHolder]
    split
    · next hh => rw [holder_of_not_made (by simp [Made, hh])]
    · rfl
  link h := by
    rw [Gateway.link, Gateway.link, holder_addHolder]
    split
    · next hh => rw [holder_of_not_made (by simp [Made, hh])]
    · rfl
  cached _ _ hu := .inl hu

/-- The holder that is got is the cached one, or it is made and cached. -/
theorem acquire_cases (g : Gateway ρ σ) (url : String) :
    (∃ h, g.cached? url = some h ∧ g.acquire url = (h, g)) ∨
      g.cached? url = none ∧ g.acquire url = (g.holders.length,
        gauge { (g.addHolder url).2 with cache := g.cache.insert url g.holders.length }) := by
  cases hc : g.cached? url with
  | some h => exact .inl ⟨h, rfl, by rw [acquire, hc]⟩
  | none => exact .inr ⟨rfl, by rw [acquire, hc]; rfl⟩

theorem evolves_acquire (g : Gateway ρ σ) (url : String) : Evolves g (g.acquire url).2 := by
  rcases acquire_cases g url with ⟨h, -, he⟩ | ⟨-, he⟩
  · rw [he]
    exact .refl g
  · rw [he]
    have hm := evolves_addHolder g url
    refine ⟨hm.remote, hm.length_le, hm.endpoint, hm.lock, hm.link, fun u h hu => ?_⟩
    rw [cached?_gauge, cached?, Table.get?_insert] at hu
    split at hu
    · next heq =>
      obtain rfl := Option.some.inj hu
      refine .inr ⟨Nat.lt_irrefl _, by simp [Made, gauge, count, addHolder], ?_⟩
      exact (congrArg Holder.endpoint (holder_addHolder g url _)).trans (by simp [heq])
    · exact .inl hu

/-- The holder that is got is cached from then on. -/
theorem cached?_acquire (g : Gateway ρ σ) (url : String) :
    (g.acquire url).2.cached? url = some (g.acquire url).1 := by
  rcases acquire_cases g url with ⟨h, hc, he⟩ | ⟨-, he⟩
  · rw [he]
    exact hc
  · rw [he, cached?_gauge, cached?, Table.get?_insert, if_pos rfl]

theorem cached?_evict (g : Gateway ρ σ) (url u : String) :
    (g.evict url).2.cached? u = if u = url then none else g.cached? u := by
  rw [evict, cached?_gauge, cached?, Table.get?_erase]
  rfl

theorem evolves_evict {o : Option HolderId} (h : g.evict url = (o, g')) : Evolves g g' := by
  cases h
  refine ⟨rfl, Nat.le_refl _, fun _ _ => rfl, fun _ => rfl, fun _ => rfl, fun u h hu => ?_⟩
  have hu := (cached?_evict g url u).symm.trans hu
  split at hu
  · cases hu
  · exact .inl hu

theorem cached?_invalidate (g : Gateway ρ σ) (h : HolderId) (u : String) :
    (g.invalidate h).cached? u =
      if u = g.endpoint h ∧ g.cached? (g.endpoint h) = some h then none else g.cached? u := by
  simp only [invalidate, cached?_gauge, Gateway.endpoint]
  by_cases hc : g.cached? (g.holder h).endpoint = some h
  · simp only [hc, if_true, and_true]
    exact Table.get?_erase _ _ _
  · simp [hc]

theorem holders_invalidate (g : Gateway ρ σ) (h : HolderId) :
    (g.invalidate h).holders = g.holders := by
  rw [invalidate, gauge, count]
  split <;> rfl

theorem remote_invalidate (g : Gateway ρ σ) (h : HolderId) :
    (g.invalidate h).remote = g.remote := by
  rw [invalidate, gauge, count]
  split <;> rfl

theorem evolves_invalidate (g : Gateway ρ σ) (h : HolderId) : Evolves g (g.invalidate h) := by
  have hg : ∀ h', (g.invalidate h).holder h' = g.holder h' := by
    intro h'
    rw [holder, holder, holders_invalidate]
  refine ⟨remote_invalidate g h, Nat.le_of_eq (by rw [holders_invalidate]),
    fun h' _ => by rw [Gateway.endpoint, Gateway.endpoint, hg],
    fun h' => by rw [Gateway.lock, Gateway.lock, hg],
    fun h' => by rw [Gateway.link, Gateway.link, hg], fun u h' hu => ?_⟩
  rw [cached?_invalidate] at hu
  split at hu
  · exact absurd hu (by simp)
  · exact .inl hu

end Gateway

end AttributeGateway
