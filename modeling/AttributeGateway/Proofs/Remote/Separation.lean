import AttributeGateway.Proofs.Remote.OpenSessions

/-!
# Endpoints apart from each other

Every URL stands for an endpoint of its own, whose sessions are with that endpoint only. What is
done at the remote side for one URL therefore has nothing to do with the endpoint of another.

* `Registry.Apart` — no two URLs stand for one endpoint; `apart_of_alters` says that it is so
  whatever the owners of endpoints have done.
* `Registry.Acts` — what is done for a URL; `Acts.spares` says that it leaves the endpoint of any
  other URL, and the sessions with it, as they are.
-/

namespace AttributeGateway

namespace Registry

variable {r r' : Registry} {url u : String} {x : Nat} {found : Found}

/-! ### Directories -/

/-- Every URL stands for an endpoint that there is, and no two URLs stand for the same one. -/
structure Apart (r : Registry) : Prop where
  /-- No two URLs stand for one endpoint. -/
  injective : ∀ {url url' i}, r.directory.get? url = some i → r.directory.get? url' = some i →
    url = url'
  /-- Every URL stands for an endpoint that there is. -/
  lt : ∀ {url i}, r.directory.get? url = some i → i < r.endpoints.length

theorem apart_empty : ({} : Registry).Apart := ⟨nofun, nofun⟩

theorem Apart.register (h : r.Apart) (url : String) : (r.register url).Apart := by
  rw [Registry.register]
  split
  · exact h
  · -- The endpoint that is added is none of those for which a URL stands.
    have hnew {url'} : ¬ r.directory.get? url' = some r.endpoints.length := fun hi =>
      Nat.lt_irrefl _ (h.lt hi)
    refine ⟨fun {url₁ url₂ i} h₁ h₂ => ?_, fun {url₁ i} h₁ => ?_⟩
    · rw [Table.get?_insert] at h₁ h₂
      split at h₁ <;> split at h₂
      · next hu₁ hu₂ => rw [hu₁, hu₂]
      · cases h₁
        exact absurd h₂ hnew
      · cases h₂
        exact absurd h₁ hnew
      · exact h.injective h₁ h₂
    · rw [Table.get?_insert] at h₁
      rw [List.length_append, List.length_singleton]
      split at h₁
      · cases h₁
        exact Nat.lt_succ_self _
      · exact Nat.lt_succ_of_lt (h.lt h₁)

theorem Apart.unregister (h : r.Apart) (url : String) : (r.unregister url).Apart := by
  have hkept {url' i} (hi : (r.unregister url).directory.get? url' = some i) :
      r.directory.get? url' = some i := by
    rw [Registry.unregister, Table.get?_erase] at hi
    split at hi
    · cases hi
    · exact hi
  exact ⟨fun h₁ h₂ => h.injective (hkept h₁) (hkept h₂), fun h₁ => h.lt (hkept h₁)⟩

theorem Apart.modify (h : r.Apart) (url : String) (f : Endpoint → Endpoint) :
    (r.modify url f).Apart := by
  rw [Registry.modify]
  split
  · exact ⟨h.injective, fun hi => (h.lt hi).trans_eq (List.length_modify _ _ _).symm⟩
  · exact h

theorem Apart.alters (h : r.Apart) (ha : r.Alters r') : r'.Apart := by
  cases ha with
  | register url => exact h.register url
  | unregister url => exact h.unregister url
  | modify url => exact h.modify url _
  | slowDown | failClosing => exact ⟨h.injective, h.lt⟩

/-- **Endpoints are apart from each other**, however they have been registered and changed. -/
theorem apart_of_alters (h : Relation.ReflTransGen Alters {} r) : r.Apart := by
  induction h with
  | refl => exact apart_empty
  | tail _ ha ih => exact ih.alters ha

/-! ### What is done for a URL -/

/-- A session is with the endpoint that a URL stands for. -/
def Serves (r : Registry) (x : Nat) (url : String) : Prop :=
  ∃ session, r.sessions[x]? = some session ∧ r.directory.get? url = some session.endpoint

/-- What a task does at the remote side for a URL. -/
inductive Acts (r : Registry) (url : String) : Registry → Prop where
  /-- Nothing, or it reads. -/
  | rest : Acts r url r
  /-- It looks for the endpoint. -/
  | reach : Acts r url (Remote.reach url r).2
  /-- It opens a session with the endpoint, unless that refuses. -/
  | establish {found : Found} (h : r.directory.get? url = some found.1) :
    Acts r url (Remote.establish found r).2
  /-- It closes a session with the endpoint. -/
  | close {x : Nat} (h : r.Serves x url) : Acts r url (r.closeSession x)

/-- The endpoint of a URL and the sessions with it are as they were. -/
structure Spares (r : Registry) (u : String) (r' : Registry) : Prop where
  /-- Every URL stands for what it stood for. -/
  directory : r'.directory = r.directory
  /-- The endpoint is as it was. -/
  endpoint : ∀ {i}, r.directory.get? u = some i → r'.endpoints[i]? = r.endpoints[i]?
  /-- So are the sessions with it. -/
  session : ∀ {x : Nat} {session : Session}, r.sessions[x]? = some session →
    r.directory.get? u = some session.endpoint → r'.sessions[x]? = some session

theorem Spares.refl (r : Registry) (u : String) : r.Spares u r := ⟨rfl, fun _ => rfl, fun h _ => h⟩

theorem endpoints_modifyEndpoint_of_ne {i j : Nat} (hij : i ≠ j) (f : Endpoint → Endpoint) :
    (r.modifyEndpoint i f).endpoints[j]? = r.endpoints[j]? := by
  simp [modifyEndpoint, hij]

/-- Nothing that is done for a URL changes what URLs stand for. -/
theorem Acts.directory (h : r.Acts url r') : r'.directory = r.directory := by
  cases h with
  | rest => rfl
  | reach =>
    change (Registry.reach url r).2.directory = r.directory
    rw [Registry.reach]
    split <;> rfl
  | @establish found =>
    change (Registry.establish found r).2.directory = r.directory
    rw [Registry.establish]
    split <;> rfl
  | close =>
    rw [closeSession]
    split <;> rfl

theorem Acts.apart (ha : r.Apart) (h : r.Acts url r') : r'.Apart := by
  have hle : r.endpoints.length ≤ r'.endpoints.length := by
    cases h with
    | rest => exact Nat.le_refl _
    | reach => exact (retains_reach url r).length_le
    | @establish found => exact Nat.le_of_eq (length_endpoints_establish found r).symm
    | @close x => exact Nat.le_of_eq (r.length_endpoints_closeSession x).symm
  refine ⟨fun h₁ h₂ => ?_, fun h₁ => ?_⟩ <;> rw [h.directory] at h₁
  · rw [h.directory] at h₂
    exact ha.injective h₁ h₂
  · exact Nat.lt_of_lt_of_le (ha.lt h₁) hle

/-- What is found for a URL is the endpoint that it stands for. -/
theorem found_of_reach (h : (Remote.reach url r).1 = .ok found) :
    r.directory.get? url = some found.1 ∧ found.2 = url := by
  change (Registry.reach url r).1 = .ok found at h
  rw [Registry.reach] at h
  split at h
  · cases h
  · next i hi =>
    cases h
    exact ⟨hi, rfl⟩

/-- A session stays with its endpoint. -/
theorem Acts.serves (h : r.Acts url r') (hx : r.Serves x u) : r'.Serves x u := by
  obtain ⟨session, hsession, hu⟩ := hx
  have hkept (hs : r'.sessions[x]? = some session) : r'.Serves x u :=
    ⟨session, hs, by rwa [h.directory]⟩
  cases h with
  | rest => exact hkept hsession
  | reach => exact hkept (by rwa [sessions_reach])
  | @establish found =>
    rcases establish_cases found r with ⟨error, -, hr⟩ | ⟨-, hr⟩
    · exact hkept (by rwa [hr])
    · refine hkept ?_
      rw [hr, List.getElem?_append_left (List.getElem?_eq_some_iff.1 hsession).1]
      exact hsession
  | @close y hy =>
    have hdirectory : (r.closeSession y).directory = r.directory := (Acts.close hy).directory
    rw [Serves, sessions_closeSession, hdirectory]
    split
    · next hxy =>
      rw [← hxy, hsession]
      exact ⟨_, rfl, hu⟩
    · exact ⟨session, hsession, hu⟩

/-- **What is done for a URL spares the endpoints of all others.** -/
theorem Acts.spares (ha : r.Apart) (h : r.Acts url r') (hne : u ≠ url) : r.Spares u r' := by
  -- The endpoint of the URL is another one.
  have hother {i j} (hi : r.directory.get? url = some i) (hj : r.directory.get? u = some j) :
      i ≠ j := by
    rintro rfl
    exact hne (ha.injective hj hi)
  refine ⟨h.directory, fun {j} hj => ?_, fun {x session} hx hj => ?_⟩
  · cases h with
    | rest => rfl
    | reach =>
      change (Registry.reach url r).2.endpoints[j]? = _
      rw [Registry.reach]
      split
      · rfl
      · next i hi => exact endpoints_modifyEndpoint_of_ne (hother hi hj) _
    | @establish found hi =>
      change (Registry.establish found r).2.endpoints[j]? = _
      rw [Registry.establish]
      split
      · rfl
      · exact endpoints_modifyEndpoint_of_ne (hother hi hj) _
    | close hx =>
      obtain ⟨session, hx, hi⟩ := hx
      rw [closeSession]
      split
      · next i url' hx' =>
        rw [hx] at hx'
        cases hx'
        exact endpoints_modifyEndpoint_of_ne (hother hi hj) _
      · rfl
  · cases h with
    | rest => exact hx
    | reach => rwa [sessions_reach]
    | @establish found =>
      rcases establish_cases found r with ⟨error, -, hr⟩ | ⟨-, hr⟩
      · rwa [hr]
      · rw [hr, List.getElem?_append_left (List.getElem?_eq_some_iff.1 hx).1]
        exact hx
    | @close y hy =>
      obtain ⟨session', hy, hi⟩ := hy
      rw [sessions_closeSession, if_neg]
      · exact hx
      · rintro rfl
        rw [hx] at hy
        cases hy
        exact hother hi hj rfl

end Registry

end AttributeGateway
