import AttributeGateway.Proofs.Remote.Registry
import Mathlib.Data.Set.Card

/-!
# The counters of open sessions

An endpoint in memory counts one up when a session with it is opened and one down when an open
session is closed. As long as nobody else writes its counter, the counter is the number of its
sessions that are open, so it is never taken below zero, and closing a closed session leaves it as
it is.

* `opens`, `openAt`, `sessionsAt` — the counter of an endpoint, its open sessions, and all that it
  has had.
* `Retains` — changes of endpoints that have nothing to do with sessions; `Alters.retains` says that
  registering an endpoint, unregistering it and changing its attributes and switches are such.
* `Tallied` — the counters are the numbers of open sessions; kept by what retains the sessions, by
  opening one and by closing one.
-/

namespace AttributeGateway

namespace Registry

variable {r r' : Registry} {x y i : Nat} {url : String} {found : Found}

/-- The counter of an endpoint, zero if there is no such endpoint. -/
def opens (r : Registry) (i : Nat) : Int := (r.endpoints[i]?).elim 0 Endpoint.openSessions

/-- The open sessions with an endpoint. -/
def openAt (r : Registry) (i : Nat) : Set Nat := {x | ∃ url, r.sessions[x]? = some ⟨i, url, false⟩}

/-- All sessions with an endpoint, open or closed. -/
def sessionsAt (r : Registry) (i : Nat) : Set Nat :=
  {x | ∃ session, r.sessions[x]? = some session ∧ session.endpoint = i}

theorem mem_openAt_iff : x ∈ r.openAt i ↔ r.IsOpen x ∧ x ∈ r.sessionsAt i := by
  constructor
  · rintro ⟨url, hx⟩
    exact ⟨⟨i, url, hx⟩, _, hx, rfl⟩
  · rintro ⟨⟨j, url, hx⟩, session, hx', rfl⟩
    obtain rfl := Option.some.inj (hx.symm.trans hx')
    exact ⟨url, hx⟩

theorem finite_sessionsAt (r : Registry) (i : Nat) : (r.sessionsAt i).Finite := by
  refine (Set.finite_lt_nat r.sessions.length).subset ?_
  rintro x ⟨session, hx, -⟩
  exact (List.getElem?_eq_some_iff.1 hx).1

theorem finite_openAt (r : Registry) (i : Nat) : (r.openAt i).Finite :=
  (r.finite_sessionsAt i).subset fun _ hx => (mem_openAt_iff.1 hx).2

theorem openAt_congr (h : r'.sessions = r.sessions) (i : Nat) : r'.openAt i = r.openAt i := by
  rw [openAt, openAt, h]

/-! ### Changes that have nothing to do with sessions -/

/-- Sessions and the counters of open sessions are as they were. Endpoints may have been added, and
other URLs may stand for them. -/
structure Retains (r r' : Registry) : Prop where
  /-- The sessions are as they were. -/
  sessions : r'.sessions = r.sessions
  /-- No counter has changed. -/
  opens : ∀ i, r'.opens i = r.opens i
  /-- No endpoint is lost. -/
  length_le : r.endpoints.length ≤ r'.endpoints.length
  /-- A URL stands for the endpoint for which it stood, or for another one that there is. -/
  registered : ∀ {url i}, r'.directory.get? url = some i →
    r.directory.get? url = some i ∨ i < r'.endpoints.length

theorem Retains.refl (r : Registry) : r.Retains r := ⟨rfl, fun _ => rfl, Nat.le_refl _, .inl⟩

theorem opens_modifyEndpoint (r : Registry) (i j : Nat) (f : Endpoint → Endpoint) :
    (r.modifyEndpoint i f).opens j =
      (r.endpoints[j]?).elim 0 fun e => if i = j then (f e).openSessions else e.openSessions := by
  rw [Registry.opens, modifyEndpoint, List.getElem?_modify]
  cases r.endpoints[j]? with
  | none => rfl
  | some e =>
    by_cases hij : i = j
    · simp [hij]
    · simp [hij]

/-- An endpoint may change but for its counter. -/
theorem retains_modifyEndpoint (r : Registry) (i : Nat) {f : Endpoint → Endpoint}
    (hf : ∀ e, (f e).openSessions = e.openSessions) : r.Retains (r.modifyEndpoint i f) where
  sessions := rfl
  opens j := by
    rw [opens_modifyEndpoint, Registry.opens]
    simp only [hf, ite_self]
  length_le := Nat.le_of_eq (List.length_modify _ _ _).symm
  registered := .inl

theorem retains_modify (r : Registry) (url : String) {f : Endpoint → Endpoint}
    (hf : ∀ e, (f e).openSessions = e.openSessions) : r.Retains (r.modify url f) := by
  rw [modify]
  split
  · exact r.retains_modifyEndpoint _ hf
  · exact .refl r

theorem retains_register (r : Registry) (url : String) : r.Retains (r.register url) := by
  rw [register]
  split
  · exact .refl r
  · refine ⟨rfl, fun j => ?_, ?_, fun {url' j} hj => ?_⟩
    · -- An endpoint that is added has no sessions.
      simp only [Registry.opens]
      rcases Nat.lt_trichotomy j r.endpoints.length with hlt | rfl | hlt
      · rw [List.getElem?_append_left hlt]
      · simp
      · have hlen : (r.endpoints ++ [({} : Endpoint)]).length ≤ j := by
          simpa [Nat.succ_le_iff] using hlt
        rw [List.getElem?_eq_none hlen, List.getElem?_eq_none (Nat.le_of_lt hlt)]
    · simp
    · simp only [Table.get?_insert] at hj
      split at hj
      · cases hj
        exact .inr (by simp)
      · exact .inl hj

theorem retains_unregister (r : Registry) (url : String) : r.Retains (r.unregister url) := by
  refine ⟨rfl, fun _ => rfl, Nat.le_refl _, fun {url' j} hj => .inl ?_⟩
  rw [unregister, Table.get?_erase] at hj
  split at hj
  · cases hj
  · exact hj

/-- What those do who own the endpoints: they leave the counters of open sessions to whoever opens
and closes sessions. -/
inductive Alters (r : Registry) : Registry → Prop where
  | register (url : String) : Alters r (r.register url)
  | unregister (url : String) : Alters r (r.unregister url)
  | modify (url : String) {f : Endpoint → Endpoint}
    (hf : ∀ e, (f e).openSessions = e.openSessions) : Alters r (r.modify url f)
  | slowDown (bean attributeName : String) : Alters r (r.slowDown bean attributeName)
  | failClosing (url : String) : Alters r (r.failClosing url)

theorem Alters.retains (h : r.Alters r') : r.Retains r' := by
  cases h with
  | register url => exact r.retains_register url
  | unregister url => exact r.retains_unregister url
  | modify url hf => exact r.retains_modify url hf
  | slowDown | failClosing => exact ⟨rfl, fun _ => rfl, Nat.le_refl _, .inl⟩

/-- Looking for an endpoint counts nothing but the attempt. -/
theorem retains_reach (url : String) (r : Registry) : r.Retains (Remote.reach url r).2 := by
  change r.Retains (reach url r).2
  rw [reach]
  split
  · exact .refl r
  · exact r.retains_modifyEndpoint _ fun _ => rfl

/-- What is found is what its URL stands for. -/
theorem registered_of_reach (h : (Remote.reach url r).1 = .ok found) :
    r.directory.get? found.2 = some found.1 := by
  change (reach url r).1 = .ok found at h
  rw [reach] at h
  split at h
  · cases h
  · next i hi =>
    cases h
    exact hi

/-! ### Opening and closing -/

/-- A session that is opened is the next one, and its endpoint counts it. -/
theorem establish_eq_ok (h : (Remote.establish found r).1 = .ok x) :
    x = r.sessions.length ∧
      (Remote.establish found r).2 =
        { r.modifyEndpoint found.1 fun e => { e with openSessions := e.openSessions + 1 } with
          sessions := r.sessions ++ [⟨found.1, found.2, false⟩] } := by
  change (establish found r).1 = .ok x at h
  change x = r.sessions.length ∧ (establish found r).2 = _
  rw [establish] at h ⊢
  split at h
  · cases h
  · next hrefuse =>
    cases h
    rw [if_neg hrefuse]
    exact ⟨rfl, rfl⟩

theorem openAt_append (h : r'.sessions = r.sessions ++ [⟨i, url, false⟩]) (j : Nat) :
    r'.openAt j = if j = i then insert r.sessions.length (r.openAt j) else r.openAt j := by
  ext x
  simp only [openAt, h, Set.mem_ofPred_eq]
  rcases Nat.lt_trichotomy x r.sessions.length with hx | hx | hx
  · rw [List.getElem?_append_left hx]
    split
    · simp [Nat.ne_of_lt hx]
    · rfl
  · subst hx
    rw [List.getElem?_append_right (Nat.le_refl _), Nat.sub_self, List.getElem?_cons_zero]
    by_cases hji : j = i
    · subst hji
      simp
    · simp [hji, Ne.symm hji]
  · have hlen : (r.sessions ++ [(⟨i, url, false⟩ : Session)]).length ≤ x := by
      simpa [Nat.succ_le_iff] using hx
    rw [List.getElem?_eq_none hlen]
    split
    · simp [Nat.ne_of_gt hx, List.getElem?_eq_none (Nat.le_of_lt hx)]
    · simp [List.getElem?_eq_none (Nat.le_of_lt hx)]

theorem openAt_closeSession (r : Registry) (x i : Nat) :
    (r.closeSession x).openAt i = r.openAt i \ {x} := by
  ext y
  simp only [openAt, Set.mem_ofPred_eq, Set.mem_sdiff, Set.mem_singleton_iff, sessions_closeSession]
  by_cases hyx : y = x
  · subst hyx
    simp
  · simp [hyx]

theorem length_endpoints_establish (found : Found) (r : Registry) :
    (Remote.establish found r).2.endpoints.length = r.endpoints.length := by
  change (establish found r).2.endpoints.length = r.endpoints.length
  rw [establish]
  split
  · rfl
  · exact List.length_modify _ _ _

theorem length_endpoints_closeSession (r : Registry) (x : Nat) :
    (r.closeSession x).endpoints.length = r.endpoints.length := by
  rw [closeSession]
  split
  · exact List.length_modify _ _ _
  · rfl

/-- Closing a closed session changes nothing. -/
theorem closeSession_of_isClosed (h : r.IsClosed x) : r.closeSession x = r := by
  obtain ⟨i, url, h⟩ := h
  rw [closeSession, h]

/-- The counters are the numbers of open sessions. -/
structure Tallied (r : Registry) : Prop where
  /-- A URL stands for an endpoint that there is. -/
  registered : ∀ {url i}, r.directory.get? url = some i → i < r.endpoints.length
  /-- A session is with an endpoint that there is. -/
  made : ∀ {x : Nat} {session : Session}, r.sessions[x]? = some session →
    session.endpoint < r.endpoints.length
  /-- An endpoint counts its open sessions. -/
  counted : ∀ i, r.opens i = (r.openAt i).ncard

theorem tallied_empty : ({} : Registry).Tallied where
  registered h := by cases h
  made h := by simp at h
  counted i := by
    have hnone : ({} : Registry).openAt i = ∅ := by
      ext x
      simp [openAt]
    rw [hnone, Set.ncard_empty]
    rfl

theorem Tallied.retains (h : r.Tallied) (hr : r.Retains r') : r'.Tallied where
  registered hi := by
    rcases hr.registered hi with hi | hi
    · exact Nat.lt_of_lt_of_le (h.registered hi) hr.length_le
    · exact hi
  made hx := by
    rw [hr.sessions] at hx
    exact Nat.lt_of_lt_of_le (h.made hx) hr.length_le
  counted i := by rw [hr.opens, openAt_congr hr.sessions, h.counted]

/-- Opening a session counts one up. -/
theorem opens_establish (hf : found.1 < r.endpoints.length)
    (h : (Remote.establish found r).1 = .ok x) (i : Nat) :
    (Remote.establish found r).2.opens i = r.opens i + if i = found.1 then 1 else 0 := by
  obtain ⟨-, hr⟩ := establish_eq_ok h
  have hopens : (Remote.establish found r).2.opens i = (r.modifyEndpoint found.1 fun e =>
      { e with openSessions := e.openSessions + 1 }).opens i := by
    rw [hr]
    rfl
  rw [hopens, opens_modifyEndpoint, Registry.opens]
  by_cases hi : i = found.1
  · subst hi
    rw [List.getElem?_eq_getElem hf]
    simp
  · simp only [Ne.symm hi, if_false, hi, Int.add_zero]

theorem Tallied.establish (ht : r.Tallied) (hf : found.1 < r.endpoints.length)
    (h : (Remote.establish found r).1 = .ok x) : (Remote.establish found r).2.Tallied := by
  have hopens := opens_establish hf h
  obtain ⟨-, hr⟩ := establish_eq_ok h
  have hlen := length_endpoints_establish found r
  have hsessions : (Remote.establish found r).2.sessions =
      r.sessions ++ [⟨found.1, found.2, false⟩] := by rw [hr]
  refine ⟨fun hi => ?_, fun {y session} hy => ?_, fun i => ?_⟩
  · rw [hr] at hi
    rw [hlen]
    exact ht.registered hi
  · rw [hsessions] at hy
    rw [hlen]
    rcases List.mem_append.1 (List.mem_of_getElem? hy) with hm | hm
    · obtain ⟨z, hz⟩ := List.mem_iff_getElem?.1 hm
      exact ht.made hz
    · rw [List.mem_singleton.1 hm]
      exact hf
  · rw [hopens, openAt_append hsessions, ht.counted]
    split
    · have hnot : r.sessions.length ∉ r.openAt i := by
        rintro ⟨url, hx⟩
        exact absurd (List.getElem?_eq_some_iff.1 hx).1 (Nat.lt_irrefl _)
      rw [Set.ncard_insert_of_notMem hnot (r.finite_openAt i)]
      rfl
    · rw [Int.add_zero]

/-- Closing an open session counts one down, and closing any other counts nothing. -/
theorem Tallied.opens_closeSession (ht : r.Tallied) (x i : Nat) [Decidable (x ∈ r.openAt i)] :
    (r.closeSession x).opens i = r.opens i - if x ∈ r.openAt i then 1 else 0 := by
  rw [closeSession]
  split
  · next j url hx =>
    have hj := ht.made hx
    have hmem : x ∈ r.openAt i ↔ i = j := by
      rw [openAt, Set.mem_ofPred_eq, hx]
      constructor
      · rintro ⟨url', h⟩
        cases h
        rfl
      · rintro rfl
        exact ⟨url, rfl⟩
    have hopens : ({ r.modifyEndpoint j fun e => { e with openSessions := e.openSessions - 1 } with
        sessions := r.sessions.modify x fun session => { session with closed := true } } :
          Registry).opens i =
        (r.modifyEndpoint j fun e => { e with openSessions := e.openSessions - 1 }).opens i := rfl
    rw [hopens, opens_modifyEndpoint, Registry.opens]
    by_cases hi : i = j
    · subst hi
      rw [if_pos (hmem.2 rfl), List.getElem?_eq_getElem hj]
      simp
    · simp only [Ne.symm hi, if_false, if_neg (mt hmem.1 hi), Int.sub_zero]
  · next hx =>
    have hnot : x ∉ r.openAt i := by
      rintro ⟨url, h⟩
      exact hx i url h
    rw [if_neg hnot, Int.sub_zero]

theorem Tallied.closeSession (ht : r.Tallied) (x : Nat) : (r.closeSession x).Tallied := by
  classical
  have hopens := ht.opens_closeSession x
  have hlen := r.length_endpoints_closeSession x
  refine ⟨fun {url i} hi => ?_, fun {y session} hy => ?_, fun i => ?_⟩
  · have hdir : (r.closeSession x).directory = r.directory := by
      rw [Registry.closeSession]
      split <;> rfl
    rw [hdir] at hi
    rw [hlen]
    exact ht.registered hi
  · rw [hlen]
    rw [sessions_closeSession] at hy
    split at hy
    · obtain ⟨session', hx, rfl⟩ := Option.map_eq_some_iff.1 hy
      have hmade := ht.made hx
      exact hmade
    · exact ht.made hy
  · rw [hopens, openAt_closeSession, ht.counted]
    split
    · next hx =>
      have hcard := Set.ncard_sdiff_singleton_add_one hx (r.finite_openAt i)
      omega
    · next hx => rw [Set.sdiff_singleton_eq_self hx, Int.sub_zero]

end Registry

end AttributeGateway
