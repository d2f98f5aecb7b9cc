import AttributeGateway.Agent.Basic
import AttributeGateway.Proofs.Agent.Envelopes

/-!
# What the replies of agents come to

A reply carries an envelope if its status says that the request has succeeded and its body is one.
By the status of the envelope the agent accepts the request or declines it; a reply that carries
none breaks the channel. To a request for an attribute these are a value, an error of the attribute
and an error of the channel; to a handshake only the first is a session.

* `Reply.Carries`, `Reply.Accepts`, `Reply.Declines`, `Reply.Breaks` — what a reply is.
* `readValue_eq_ok_iff`, `readValue_eq_unreadable_iff`, `exists_channel_iff` — what is read of it.
* `opened_eq_ok_iff`, `exists_connect_of_opened` — whether it opens a session.
* `find_eq_ok_iff`, `exists_connect_of_find` — which agents can be asked.
-/

namespace AttributeGateway

namespace Agent

variable {reply : Reply} {e e' : Envelope} {v : Value} {url : Url} {found : Found}
  {error : RemoteError} {endpoint complaint : String}

namespace Reply

/-- A reply carries an envelope: it reports success, and the envelope is its body. -/
inductive Carries (e : Envelope) : Reply → Prop where
  | answered {status : Nat} {body : List UInt8} {content : Envelope.Content}
    (hs : 200 ≤ status ∧ status < 300) (hc : Envelope.content? (Body.pieces body) = some content)
    (hd : Envelope.Decodes content e) (flaw : String) : Carries e (.answered status body flaw)

/-- The envelope of a reply reports success, with a value. -/
def Accepts (reply : Reply) (v : Value) : Prop :=
  ∃ e, Carries e reply ∧ e.status = 200 ∧ v = .ofJson e.value

/-- The envelope of a reply reports no success, and complains of something. -/
def Declines (reply : Reply) (complaint : String) : Prop :=
  ∃ e, Carries e reply ∧ e.status ≠ 200 ∧ complaint = e.complaint

/-- A reply carries no envelope. -/
def Breaks (reply : Reply) : Prop := ∀ e, ¬ Carries e reply

theorem carries_iff : Carries e reply ↔
    ∃ status body flaw, reply = .answered status body flaw ∧ Http.succeeded status = true ∧
      Envelope.ofBody? body = some e := by
  constructor
  · rintro ⟨hs, hc, hd, flaw⟩
    exact ⟨_, _, flaw, rfl, by simpa [Http.succeeded] using hs,
      Envelope.ofBody?_eq_some_iff.2 ⟨_, hc, hd⟩⟩
  · rintro ⟨status, body, flaw, rfl, hs, hb⟩
    obtain ⟨content, hc, hd⟩ := Envelope.ofBody?_eq_some_iff.1 hb
    exact .answered (by simpa [Http.succeeded] using hs) hc hd flaw

/-- A reply carries one envelope at most. -/
theorem Carries.unique (h : Carries e reply) (h' : Carries e' reply) : e = e' := by
  obtain ⟨status, body, flaw, rfl, -, hb⟩ := carries_iff.1 h
  obtain ⟨status', body', flaw', heq, -, hb'⟩ := carries_iff.1 h'
  cases heq
  exact Option.some.inj (hb.symm.trans hb')

theorem Accepts.unique {v' : Value} (h : Accepts reply v) (h' : Accepts reply v') : v = v' := by
  obtain ⟨e, he, -, rfl⟩ := h
  obtain ⟨e', he', -, rfl⟩ := h'
  rw [he.unique he']

/-- A reply that declines does not accept. -/
theorem Declines.not_accepts (h : Declines reply complaint) : ¬ Accepts reply v := by
  rintro ⟨e, he, hs, -⟩
  obtain ⟨e', he', hs', -⟩ := h
  exact hs' (he'.unique he ▸ hs)

end Reply

/-! ### Reading -/

theorem readValue_of_carries (h : reply.Carries e) (url : Url) :
    readValue url reply =
      if e.status = 200 then .ok (.ofJson e.value) else .error (.unreadable e.complaint) := by
  obtain ⟨status, body, flaw, rfl, hs, hb⟩ := Reply.carries_iff.1 h
  rw [readValue, if_pos hs, hb]
  rfl

theorem readValue_of_breaks (h : reply.Breaks) (url : Url) :
    ∃ reason, readValue url reply = .error (.channel reason) := by
  cases reply with
  | lost problem => exact ⟨_, rfl⟩
  | answered status body flaw =>
    rw [readValue]
    split
    · next hs =>
      cases hb : Envelope.ofBody? body with
      | none => exact ⟨_, rfl⟩
      | some e => exact absurd (Reply.carries_iff.2 ⟨status, body, flaw, rfl, hs, hb⟩) (h e)
    · exact ⟨_, rfl⟩

/-- A reply is read in one of three ways. -/
theorem readValue_cases (url : Url) (reply : Reply) :
    (∃ e, reply.Carries e ∧ e.status = 200 ∧ readValue url reply = .ok (.ofJson e.value)) ∨
      (∃ e, reply.Carries e ∧ e.status ≠ 200 ∧
        readValue url reply = .error (.unreadable e.complaint)) ∨
      reply.Breaks ∧ ∃ reason, readValue url reply = .error (.channel reason) := by
  by_cases h : ∃ e, reply.Carries e
  · obtain ⟨e, he⟩ := h
    rw [readValue_of_carries he]
    by_cases hs : e.status = 200
    · exact .inl ⟨e, he, hs, if_pos hs⟩
    · exact .inr (.inl ⟨e, he, hs, if_neg hs⟩)
  · have hbreaks : reply.Breaks := fun e he => h ⟨e, he⟩
    exact .inr (.inr ⟨hbreaks, readValue_of_breaks hbreaks url⟩)

/-- **A value is read** exactly of a reply whose envelope reports success. -/
theorem readValue_eq_ok_iff : readValue url reply = .ok v ↔ reply.Accepts v := by
  constructor
  · intro h
    rcases readValue_cases url reply with ⟨e, he, hs, heq⟩ | ⟨e, -, -, heq⟩ | ⟨-, reason, heq⟩
    · cases h.symm.trans heq
      exact ⟨e, he, hs, rfl⟩
    · cases h.symm.trans heq
    · cases h.symm.trans heq
  · rintro ⟨e, he, hs, rfl⟩
    rw [readValue_of_carries he, if_pos hs]

/-- **The attribute is to blame** exactly if the envelope of the reply reports no success. -/
theorem readValue_eq_unreadable_iff :
    readValue url reply = .error (.unreadable complaint) ↔ reply.Declines complaint := by
  constructor
  · intro h
    rcases readValue_cases url reply with ⟨e, -, -, heq⟩ | ⟨e, he, hs, heq⟩ | ⟨-, reason, heq⟩
    · cases h.symm.trans heq
    · cases h.symm.trans heq
      exact ⟨e, he, hs, rfl⟩
    · cases h.symm.trans heq
  · rintro ⟨e, he, hs, rfl⟩
    rw [readValue_of_carries he, if_neg hs]

/-- **The channel is to blame** exactly if the reply carries no envelope. -/
theorem exists_channel_iff :
    (∃ reason, readValue url reply = .error (.channel reason)) ↔ reply.Breaks := by
  constructor
  · rintro ⟨reason, h⟩ e he
    rw [readValue_of_carries he] at h
    split at h
    · cases h
    · cases h
  · exact fun h => readValue_of_breaks h url

/-! ### Opening -/

theorem opened_of_accepts (h : reply.Accepts v) (found : Found) :
    opened found reply = .ok found.url := by
  obtain ⟨e, he, hs, -⟩ := h
  obtain ⟨status, body, flaw, rfl, hsucceeded, hb⟩ := Reply.carries_iff.1 he
  rw [opened, if_pos hsucceeded, hb]
  exact if_pos hs

theorem opened_of_not_accepts (h : ∀ v, ¬ reply.Accepts v) (found : Found) :
    ∃ reason, opened found reply = .error (.connect reason) := by
  cases reply with
  | lost problem => exact ⟨_, rfl⟩
  | answered status body flaw =>
    rw [opened]
    split
    · next hsucceeded =>
      cases hb : Envelope.ofBody? body with
      | none => exact ⟨_, rfl⟩
      | some e =>
        refine ⟨_, if_neg fun hs => h (.ofJson e.value) ⟨e, ?_, hs, rfl⟩⟩
        exact Reply.carries_iff.2 ⟨status, body, flaw, rfl, hsucceeded, hb⟩
    · exact ⟨_, rfl⟩

/-- **A session is opened** exactly by a reply of which a value is read. -/
theorem opened_eq_ok_iff :
    opened found reply = .ok url ↔ url = found.url ∧ ∃ v, reply.Accepts v := by
  by_cases h : ∃ v, reply.Accepts v
  · obtain ⟨v, hv⟩ := h
    rw [opened_of_accepts hv]
    exact ⟨fun heq => ⟨(Except.ok.inj heq).symm, v, hv⟩, fun heq => congrArg _ heq.1.symm⟩
  · obtain ⟨reason, heq⟩ := opened_of_not_accepts (fun v hv => h ⟨v, hv⟩) found
    rw [heq]
    exact iff_of_false (by simp) fun hv => h hv.2

/-- Every other reply is an error of connecting. -/
theorem exists_connect_of_opened (h : opened found reply = .error error) :
    ∃ reason, error = .connect reason := by
  by_cases hv : ∃ v, reply.Accepts v
  · obtain ⟨v, hv⟩ := hv
    cases (opened_of_accepts hv found).symm.trans h
  · obtain ⟨reason, heq⟩ := opened_of_not_accepts (fun v h => hv ⟨v, h⟩) found
    cases heq.symm.trans h
    exact ⟨reason, rfl⟩

/-! ### Finding -/

/-- A URL that agents have, for which a request can be made. -/
structure Addressable (url : Url) : Prop where
  scheme : url.scheme = "http" ∨ url.scheme = "https"
  request : ({ url.child "version" with user := "" } : Url).canBeRequested = true

theorem addressesAgent_iff :
    url.addressesAgent = true ↔ url.scheme = "http" ∨ url.scheme = "https" := by
  simp [Url.addressesAgent]

/-- **An agent is found** exactly if its URL can be read and addressed. -/
theorem find_eq_ok_iff : find endpoint = .ok found ↔
    found.endpoint = endpoint ∧ Url.parse endpoint = .ok found.url ∧ Addressable found.url := by
  constructor
  · intro h
    unfold find at h
    split at h
    · cases h
    · next url hp =>
      split at h
      · cases h
      · next hs =>
        simp only at h
        split at h
        · next hr =>
          cases h
          exact ⟨rfl, hp, addressesAgent_iff.1 (by simpa using hs), hr⟩
        · cases h
  · rintro ⟨rfl, hp, hs, hr⟩
    rw [find, hp]
    dsimp only
    rw [addressesAgent_iff.2 hs, if_neg (by decide)]
    exact if_pos hr

theorem exists_connect_of_find (h : find endpoint = .error error) :
    ∃ reason, error = .connect reason := by
  unfold find at h
  split at h
  · cases h
    exact ⟨_, rfl⟩
  · split at h
    · cases h
      exact ⟨_, rfl⟩
    · simp only at h
      split at h
      · cases h
      · cases h
        exact ⟨_, rfl⟩

end Agent

end AttributeGateway
