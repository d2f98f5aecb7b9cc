import AttributeGateway.Remote.Registry
import Mathlib.Data.List.Basic

/-!
# Sessions with endpoints in memory

A session is open from the moment it is established until it is closed, and closed from then on.
Sessions are numbered as they are opened, so a new session is none of those before. Nothing but
establishing and closing has to do with sessions: registering an endpoint keeps them, and so does
looking for one.

* `Registry.IsOpen`, `Registry.IsClosed` — the two states of a session.
* `isOpen_append`, `isClosed_append`, `isOpen_closeSession`, `isClosed_closeSession` — what opening
  and closing do to them.
-/

namespace AttributeGateway

namespace Registry

variable {r r' : Registry} {x y i : Nat} {url : String} {found : Found}

/-- A session that has been opened and not been closed. -/
def IsOpen (r : Registry) (x : Nat) : Prop := ∃ i url, r.sessions[x]? = some ⟨i, url, false⟩

/-- A session that has been closed. -/
def IsClosed (r : Registry) (x : Nat) : Prop := ∃ i url, r.sessions[x]? = some ⟨i, url, true⟩

theorem IsOpen.lt (h : r.IsOpen x) : x < r.sessions.length := by
  obtain ⟨i, url, h⟩ := h
  exact (List.getElem?_eq_some_iff.1 h).1

theorem IsOpen.not_isClosed (h : r.IsOpen x) : ¬ r.IsClosed x := by
  obtain ⟨i, url, h⟩ := h
  rintro ⟨i', url', h'⟩
  rw [h] at h'
  cases h'

theorem isOpen_or_isClosed (h : x < r.sessions.length) : r.IsOpen x ∨ r.IsClosed x := by
  obtain ⟨⟨i, url, closed⟩, hx⟩ : ∃ session, r.sessions[x]? = some session :=
    ⟨_, List.getElem?_eq_getElem h⟩
  cases closed with
  | false => exact .inl ⟨i, url, hx⟩
  | true => exact .inr ⟨i, url, hx⟩

theorem isClosed_iff : r.IsClosed x ↔ x < r.sessions.length ∧ ¬ r.IsOpen x := by
  constructor
  · rintro ⟨i, url, h⟩
    refine ⟨(List.getElem?_eq_some_iff.1 h).1, ?_⟩
    exact fun hopen => hopen.not_isClosed ⟨i, url, h⟩
  · rintro ⟨hlt, hno⟩
    exact (isOpen_or_isClosed hlt).resolve_left hno

/-- Reading through an open session asks its endpoint. -/
theorem IsOpen.read (h : r.IsOpen x) : ∃ i : Nat, ∀ bean attributeName,
    r.read x bean attributeName =
      Endpoint.read ((r.endpoints[i]?).getD {}) bean attributeName := by
  obtain ⟨i, url, h⟩ := h
  refine ⟨i, fun bean attributeName => ?_⟩
  rw [Registry.read, h]

/-! ### Opening and closing -/

theorem isOpen_congr (h : r'.sessions = r.sessions) : r'.IsOpen x ↔ r.IsOpen x := by
  rw [IsOpen, IsOpen, h]

theorem isClosed_congr (h : r'.sessions = r.sessions) : r'.IsClosed x ↔ r.IsClosed x := by
  rw [IsClosed, IsClosed, h]

theorem isOpen_append (h : r'.sessions = r.sessions ++ [⟨i, url, false⟩]) :
    r'.IsOpen x ↔ r.IsOpen x ∨ x = r.sessions.length := by
  rw [IsOpen, IsOpen, h]
  rcases Nat.lt_trichotomy x r.sessions.length with hx | hx | hx
  · rw [List.getElem?_append_left hx]
    exact ⟨.inl, fun h => h.resolve_right (Nat.ne_of_lt hx)⟩
  · subst hx
    rw [List.getElem?_append_right (Nat.le_refl _), Nat.sub_self]
    exact ⟨fun _ => .inr rfl, fun _ => ⟨i, url, rfl⟩⟩
  · have hlen : (r.sessions ++ [(⟨i, url, false⟩ : Session)]).length ≤ x := by
      simpa [Nat.succ_le_iff] using hx
    rw [List.getElem?_eq_none hlen, List.getElem?_eq_none (Nat.le_of_lt hx)]
    exact ⟨.inl, fun h => h.resolve_right (Nat.ne_of_gt hx)⟩

theorem isClosed_append (h : r'.sessions = r.sessions ++ [⟨i, url, false⟩]) :
    r'.IsClosed x ↔ r.IsClosed x := by
  rw [isClosed_iff, isClosed_iff, isOpen_append h, h, List.length_append, List.length_singleton]
  constructor
  · rintro ⟨hlt, hno⟩
    rw [not_or] at hno
    exact ⟨Nat.lt_of_le_of_ne (Nat.le_of_lt_succ hlt) hno.2, hno.1⟩
  · rintro ⟨hlt, hno⟩
    exact ⟨Nat.lt_succ_of_lt hlt, not_or.2 ⟨hno, Nat.ne_of_lt hlt⟩⟩

theorem sessions_closeSession (r : Registry) (x y : Nat) :
    (r.closeSession x).sessions[y]? =
      if y = x then (r.sessions[x]?).map fun session => { session with closed := true }
      else r.sessions[y]? := by
  by_cases hyx : y = x
  · subst hyx
    rw [if_pos rfl, closeSession]
    split
    · next i url hx => simp [hx]
    · next hx =>
      -- The session is not open, so there is nothing to be closed.
      cases hy : r.sessions[y]? with
      | none => rfl
      | some session =>
        obtain ⟨i, url, closed⟩ := session
        cases closed with
        | false => exact absurd hy (hx i url)
        | true => rfl
  · rw [if_neg hyx, closeSession]
    split
    · simp [Ne.symm hyx]
    · rfl

theorem isOpen_closeSession : (r.closeSession x).IsOpen y ↔ r.IsOpen y ∧ y ≠ x := by
  rw [IsOpen, IsOpen]
  simp only [sessions_closeSession]
  by_cases hyx : y = x
  · subst hyx
    rw [if_pos rfl]
    constructor
    · rintro ⟨i, url, h⟩
      obtain ⟨session, -, hsession⟩ := Option.map_eq_some_iff.1 h
      exact absurd (congrArg Session.closed hsession) (by simp)
    · exact fun h => absurd rfl h.2
  · rw [if_neg hyx]
    exact ⟨fun h => ⟨h, hyx⟩, fun h => h.1⟩

theorem length_sessions_closeSession (r : Registry) (x : Nat) :
    (r.closeSession x).sessions.length = r.sessions.length := by
  rw [closeSession]
  split
  · exact List.length_modify _ _ _
  · rfl

/-- What is closed is closed then, and nothing else is. -/
theorem isClosed_closeSession :
    (r.closeSession x).IsClosed y ↔ r.IsClosed y ∨ y = x ∧ x < r.sessions.length := by
  rw [isClosed_iff, isClosed_iff, isOpen_closeSession, length_sessions_closeSession]
  by_cases hyx : y = x
  · subst hyx
    simp only [ne_eq, not_true_eq_false, and_false, not_false_eq_true, and_true, true_and]
    exact ⟨.inr, fun h => h.elim And.left id⟩
  · simp only [ne_eq, hyx, not_false_eq_true, and_true, false_and, or_false]

/-! ### What keeps the sessions -/

theorem sessions_register (r : Registry) (url : String) :
    (r.register url).sessions = r.sessions := by
  rw [register]
  split <;> rfl

theorem sessions_modify (r : Registry) (url : String) (f : Endpoint → Endpoint) :
    (r.modify url f).sessions = r.sessions := by
  rw [modify]
  split <;> rfl

theorem sessions_reach (url : String) (r : Registry) :
    (Remote.reach url r).2.sessions = r.sessions := by
  change (reach url r).2.sessions = r.sessions
  rw [reach]
  split <;> rfl

/-- Establishing a session opens the next one, or changes nothing. -/
theorem establish_cases (found : Found) (r : Registry) :
    (∃ error, (Remote.establish found r).1 = .error error ∧ (Remote.establish found r).2 = r) ∨
      (Remote.establish found r).1 = .ok r.sessions.length ∧
        (Remote.establish found r).2.sessions =
          r.sessions ++ [⟨found.1, found.2, false⟩] := by
  change (∃ error, (establish found r).1 = .error error ∧ (establish found r).2 = r) ∨
    (establish found r).1 = .ok r.sessions.length ∧
      (establish found r).2.sessions = r.sessions ++ [⟨found.1, found.2, false⟩]
  rw [establish]
  split
  · exact .inl ⟨_, rfl, rfl⟩
  · exact .inr ⟨rfl, rfl⟩

end Registry

end AttributeGateway
