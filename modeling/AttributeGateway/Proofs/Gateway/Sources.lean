import AttributeGateway.Proofs.Gateway.Alone
import AttributeGateway.Proofs.Gateway.Caching
import AttributeGateway.Proofs.Gateway.Sessions

/-!
# What a request is answered from

A request that is answered with nothing else going on gets what its endpoint has, whether it finds a
connected holder, one that could not be connected before, or none: through whichever session it
reads, it reads the same endpoint. If no endpoint can be read, the request is told why.

* `Endpoint.reply` — what an endpoint has for a request; `Endpoint.missed` — how many of its queries
  are counted as unavailable.
* `Gateway.Serving` — a connected holder through which an endpoint is read; `answered_proceed` says
  that a request that goes on with such a holder is answered by what the endpoint has.
* `Gateway.Resting` — a gateway whose holders nobody uses.
* `Gateway.available` — the endpoint that a request for a URL reads, or why it reads none.
* `Gateway.reply` — what a request is answered; `Activity.goes_get` says that it is.
-/

namespace AttributeGateway

/-! ### What an endpoint answers -/

namespace Endpoint

/-- What an endpoint has for a query. -/
def find (e : Endpoint) (q : Query) : Except Fault Value :=
  match q.path with
  | .error f => .error f
  | .ok p =>
    match e.read q.bean p.attributeName with
    | .ok v => v.resolve p.rest
    | .error error => .error (.ofRemote error)

/-- The line for a query, unless its fault spoils the whole answer. -/
def line (e : Endpoint) (t : Template) (q : Query) : Except Fault String :=
  match e.find q with
  | .ok v => .ok ((t.line v).getD notAvailable)
  | .error f => if f.itemLevel then .ok notAvailable else .error f

/-- What an endpoint answers to queries behind those that have been answered by some lines. -/
def replyBehind (e : Endpoint) (t : Template) (lines : List String) (queries : List Query) :
    Response :=
  match queries.mapM (e.line t) with
  | .ok rest => .ok (lines ++ rest)
  | .error f => .err .channelError f.detail

/-- What an endpoint answers to a request. -/
def reply (e : Endpoint) (get : Get) : Response := e.replyBehind get.template [] get.queries

/-- Whether there is nothing to be had for a query: it fails without spoiling the answer, or the
template cannot take the text of the value. -/
def misses (e : Endpoint) (t : Template) (q : Query) : Bool :=
  match e.find q with
  | .ok v => (t.line v).isNone
  | .error f => f.itemLevel

/-- How many of the queries have missed when they are all answered, or one of them spoils the
answer. -/
def missed (e : Endpoint) (t : Template) (queries : List Query) : Nat :=
  (queries.takeWhile fun q => (e.line t q).isOk).countP (e.misses t)

variable {e : Endpoint} {t : Template} {q : Query} {queries : List Query} {lines : List String}

theorem replyBehind_nil : e.replyBehind t lines [] = .ok lines :=
  congrArg Response.ok (List.append_nil lines)

theorem replyBehind_cons {l : String} (h : e.line t q = .ok l) :
    e.replyBehind t lines (q :: queries) = e.replyBehind t (lines ++ [l]) queries := by
  rw [replyBehind, replyBehind, List.mapM_cons, h]
  cases queries.mapM (e.line t) with
  | error f => rfl
  | ok rest =>
    change Response.ok (lines ++ l :: rest) = Response.ok (lines ++ [l] ++ rest)
    rw [List.append_assoc, List.singleton_append]

theorem replyBehind_cons_error {f : Fault} (h : e.line t q = .error f) :
    e.replyBehind t lines (q :: queries) = .err .channelError f.detail := by
  rw [replyBehind, List.mapM_cons, h]
  rfl

theorem missed_cons {l : String} (h : e.line t q = .ok l) :
    e.missed t (q :: queries) = (e.misses t q).toNat + e.missed t queries := by
  rw [missed, List.takeWhile_cons_of_pos (by rw [h]; rfl), List.countP_cons, Nat.add_comm]
  cases e.misses t q <;> rfl

theorem missed_cons_error {f : Fault} (h : e.line t q = .error f) :
    e.missed t (q :: queries) = 0 := by
  rw [missed, List.takeWhile_cons_of_neg (by rw [h]; simp [Except.isOk, Except.toBool])]
  rfl

end Endpoint

/-! ### Reading through a connected holder -/

/-- A holder that nobody else uses is connected, and an endpoint is read through it. -/
def Gateway.Serving (g : Gateway Registry Nat) (h : HolderId) (e : Endpoint) : Prop :=
  ∃ x, g.Stands h {} (.connected x) ∧
    ∀ bean attributeName, g.remote.read x bean attributeName = e.read bean attributeName

theorem Gateway.Counts.serving {g g' : Gateway Registry Nat} {h : HolderId} {e : Endpoint}
    (hc : g.Counts g') (hs : g.Serving h e) : g'.Serving h e := by
  obtain ⟨x, hs, hr⟩ := hs
  refine ⟨x, hs.of_eq hc.holders, fun bean attributeName => ?_⟩
  rw [hc.remote]
  exact hr bean attributeName

namespace Activity

variable {g : Gateway Registry Nat} {h : HolderId} {e : Endpoint} {id : TaskId} {get : Get}
  {lines : List String} {q : Query} {queries : List Query} {f : Fault}

/-- A request that gives up closes the holder and tells of the fault. -/
theorem goes_giveUp (hs : g.Serving h e) (f : Fault) :
    ∃ g', Goes id (giveUp h f g) (g', .finished (.answered (.err .channelError f.detail))) ∧
      g'.unavailable = g.unavailable := by
  obtain ⟨x, hs, -⟩ := hs
  have hs' : ((g.count fun m => { m with remoteErrors := m.remoteErrors + 1 }).invalidate h).Stands
      h {} (.connected x) :=
    (Gateway.evolves_invalidate _ h).stands ((g.counts_count _).evolves.stands hs)
  obtain ⟨g', hends, -⟩ := Access.ends_close id hs'
  refine ⟨_, (goes_of_ends hends (.givingUp f)).tail rfl, hends.unavailable.trans ?_⟩
  rw [Gateway.invalidate]
  split <;> rfl

/-- A request that has been answered so far by some lines goes to the answer of the endpoint, and
the queries that miss are counted from some number on. -/
def Answered (id : TaskId) (e : Endpoint) (t : Template) (lines : List String)
    (queries : List Query) (n : Nat) (x : Gateway Registry Nat × Activity Registry.Found Nat) :
    Prop :=
  ∃ g', Goes id x (g', .finished (.answered (e.replyBehind t lines queries))) ∧
    g'.unavailable = n + e.missed t queries

/-- A request goes on behind a query that has been answered by what the endpoint has for it. -/
theorem answered_settle (id : TaskId) (get : Get) (lines : List String) (q : Query)
    (hs : g.Serving h e)
    (ih : ∀ {g : Gateway Registry Nat} (lines : List String), g.Serving h e →
      Answered id e get.template lines queries g.unavailable (proceed h get lines queries g)) :
    Answered id e get.template lines (q :: queries) g.unavailable
      (settle h ⟨get, lines, q :: queries⟩ (e.find q) g) := by
  have hcount := g.counts_countUnavailable.serving hs
  rw [Answered]
  cases hfind : e.find q with
  | ok v =>
    have hline : e.line get.template q = .ok ((get.template.line v).getD notAvailable) := by
      rw [Endpoint.line, hfind]
    have hmisses : e.misses get.template q = (get.template.line v).isNone := by
      rw [Endpoint.misses, hfind]
    rw [Endpoint.replyBehind_cons hline, Endpoint.missed_cons hline, hmisses, ← Nat.add_assoc]
    cases hv : get.template.line v with
    | some l =>
      simp only [settle, hv]
      exact ih _ hs
    | none =>
      simp only [settle, hv]
      exact ih _ hcount
  | error f =>
    by_cases hf : f.itemLevel = true
    · have hline : e.line get.template q = .ok notAvailable := by
        rw [Endpoint.line, hfind]
        exact if_pos hf
      have hmisses : e.misses get.template q = true := by
        rw [Endpoint.misses, hfind]
        exact hf
      rw [Endpoint.replyBehind_cons hline, Endpoint.missed_cons hline, hmisses, ← Nat.add_assoc]
      simp only [settle, if_pos hf]
      exact ih _ hcount
    · have hline : e.line get.template q = .error f := by
        rw [Endpoint.line, hfind]
        exact if_neg hf
      rw [Endpoint.replyBehind_cons_error hline, Endpoint.missed_cons_error hline]
      simpa only [settle, if_neg hf, Nat.add_zero] using goes_giveUp hs f

/-- Behind a read a request goes on with what the endpoint has for the query. -/
theorem resume_readOutcome {x : Nat} {p : Path} (hp : q.path = .ok p)
    (hx : g.remote.read x q.bean p.attributeName = e.read q.bean p.attributeName)
    (g' : Gateway Registry Nat) :
    resume (τ := Registry.Found) (.fetching ⟨get, lines, q :: queries⟩ false) h
        (Access.readOutcome x q.bean p.attributeName g) g' =
      settle h ⟨get, lines, q :: queries⟩ (e.find q) g' := by
  obtain ⟨bean, rawPath, path⟩ := q
  subst hp
  have hread : (Remote.read x bean p.attributeName g.remote).1 = e.read bean p.attributeName := hx
  simp only [Access.readOutcome, hread, Endpoint.find]
  cases e.read bean p.attributeName with
  | ok v => rfl
  | error error => cases error <;> rfl

/-- **A request that goes on with a connected holder** is answered by what the endpoint has. -/
theorem answered_proceed (id : TaskId) (get : Get) (lines : List String) (queries : List Query)
    (hs : g.Serving h e) :
    Answered id e get.template lines queries g.unavailable (proceed h get lines queries g) := by
  induction queries generalizing lines g with
  | nil =>
    rw [Answered, Endpoint.replyBehind_nil]
    exact ⟨_, .refl, rfl⟩
  | cons q queries ih =>
    cases hq : q.path with
    | error f =>
      have hfind : e.find q = .error f := by rw [Endpoint.find, hq]
      have hsettle := answered_settle id get lines q hs @ih
      rw [hfind] at hsettle
      simp only [proceed, hq]
      exact hsettle
    | ok p =>
      obtain ⟨x, hs, hx⟩ := hs
      obtain ⟨g₁, hends, hs₁, hr₁⟩ :=
        Access.ends_fetch id hs q.bean p.attributeName
      have hserving : g₁.Serving h e := ⟨x, hs₁, fun bean attributeName => by
        rw [hr₁]
        exact hx bean attributeName⟩
      obtain ⟨g', hg', hcount⟩ := answered_settle id get lines q hserving @ih
      have hgoes := goes_of_ends hends (.fetching ⟨get, lines, q :: queries⟩ false)
      refine ⟨g', ?_, hends.unavailable ▸ hcount⟩
      simp only [proceed, hq]
      refine hgoes.trans (.head ?_ hg')
      exact congrArg some (resume_readOutcome hq (hx _ _) g₁)

end Activity

/-! ### Getting a connected holder -/

namespace Registry

variable {r : Registry} {url : String} {e : Endpoint} {f : Fault}

/-- The endpoint with a number. -/
def endpointAt (r : Registry) (i : Nat) : Endpoint := (r.endpoints[i]?).getD {}

theorem refusing_endpointAt (r : Registry) (i : Nat) :
    (r.endpointAt i).refusing = r.endpoints[i]?.any (·.refusing) := by
  rw [endpointAt]
  cases r.endpoints[i]? <;> rfl

/-- The endpoint with which a session is opened under a URL, or why none is. -/
def available (r : Registry) (url : String) : Except Fault Endpoint :=
  match r.directory.get? url with
  | none => .error (.connectionFailed ("Connection refused: no endpoint at '" ++ url ++ "'"))
  | some i =>
    if (r.endpointAt i).refusing then
      .error (.connectionFailed ("Connection refused by '" ++ url ++ "'"))
    else .ok (r.endpointAt i)

theorem available_eq_ok_iff : r.available url = .ok e ↔
    ∃ i, r.directory.get? url = some i ∧ r.endpointAt i = e ∧ e.refusing = false := by
  rw [available]
  cases r.directory.get? url with
  | none => simp
  | some i =>
    simp only [Option.some.injEq, exists_eq_left']
    split
    · next ha =>
      refine ⟨nofun, ?_⟩
      rintro ⟨rfl, hno⟩
      rw [hno] at ha
      cases ha
    · next ha =>
      rw [Except.ok.injEq]
      refine ⟨?_, And.left⟩
      rintro rfl
      exact ⟨rfl, Bool.eq_false_iff.2 ha⟩

/-- An endpoint that is available opens a session, through which it is read. -/
theorem establish_of_available (h : r.available url = .ok e) :
    ∃ found r₁ x, Remote.reach url r = (.ok found, r₁) ∧
      (Remote.establish found r₁).1 = .ok x ∧
      ∀ bean attributeName,
        (Remote.establish found r₁).2.read x bean attributeName = e.read bean attributeName := by
  obtain ⟨i, hd, rfl, ha⟩ := available_eq_ok_iff.1 h
  let r₁ := r.modifyEndpoint i fun e => { e with attempts := e.attempts + 1 }
  rw [refusing_endpointAt] at ha
  have ha₁ : ¬ r₁.endpoints[i]?.any (·.refusing) = true := by
    simpa [r₁, modifyEndpoint, Option.any_map, Function.comp_def] using ha
  have hest : establish (i, url) r₁ = (.ok r₁.sessions.length,
      { r₁.modifyEndpoint i fun e => { e with openSessions := e.openSessions + 1 } with
        sessions := r₁.sessions ++ [⟨i, url, false⟩] }) := by
    rw [establish, if_neg ha₁]
  refine ⟨(i, url), r₁, r₁.sessions.length, ?_, congrArg Prod.fst hest,
    fun bean attributeName => ?_⟩
  · change reach url r = _
    rw [reach, hd]
  · change (establish (i, url) r₁).2.read _ _ _ = _
    rw [hest, endpointAt]
    cases he : r.endpoints[i]? with
    | none => simp [Registry.read, r₁, modifyEndpoint, he]
    | some e =>
      simp [Registry.read, r₁, modifyEndpoint, he]
      rfl

/-- If no session is opened, it is because the endpoint is not found or because it refuses. -/
theorem fails_of_available (h : r.available url = .error f) :
    ∃ error, f = .connectionFailed error.message ∧ ((Remote.reach url r).1 = .error error ∨
      ∃ found r', Remote.reach url r = (.ok found, r') ∧
        (Remote.establish found r').1 = .error error) := by
  have hreach : Remote.reach url r = reach url r := rfl
  have hestablish (found : Found) (r : Registry) :
      Remote.establish found r = establish found r := rfl
  simp only [hreach, hestablish, reach]
  rw [available] at h
  cases hd : r.directory.get? url with
  | none =>
    rw [hd] at h
    cases h
    exact ⟨.connect _, rfl, .inl rfl⟩
  | some i =>
    simp only [hd] at h
    split at h
    · next hrefusing =>
      cases h
      rw [refusing_endpointAt] at hrefusing
      refine ⟨.connect ("Connection refused by '" ++ url ++ "'"), rfl, .inr ⟨(i, url), _, rfl, ?_⟩⟩
      rw [establish, if_pos]
      simpa [modifyEndpoint, Option.any_map, Function.comp_def] using hrefusing
    · cases h

end Registry

/-- A holder that nobody else uses has an open session with an endpoint, or can be connected to
it. -/
def Gateway.Offering (g : Gateway Registry Nat) (h : HolderId) (e : Endpoint) : Prop :=
  g.Serving h e ∨ g.Stands h {} .disconnected ∧ g.remote.available (g.endpoint h) = .ok e

theorem Gateway.unavailable_acquire {ρ σ : Type} (g : Gateway ρ σ) (url : String) :
    (g.acquire url).2.unavailable = g.unavailable := by
  rcases acquire_cases g url with ⟨h, -, hacq⟩ | ⟨-, hacq⟩
  · rw [hacq]
  · rw [hacq]
    rfl

namespace Activity

variable {g : Gateway Registry Nat} {h : HolderId} {e : Endpoint} {id : TaskId} {r : Reading}

/-- A request gets the holder connected and goes on with its queries. -/
theorem goes_connecting (id : TaskId) (r : Reading) (ho : g.Offering h e) :
    ∃ g₁, g₁.Serving h e ∧
      Goes id (g, .requesting (.connecting r false false) { holder := h, aim := .connect })
        (proceed (τ := Registry.Found) h r.get r.lines r.rest g₁) ∧
      g₁.unavailable = g.unavailable := by
  -- Behind the access the request goes on with its queries.
  have hgoes {g₁ : Gateway Registry Nat}
      (hends : Access.Ends id g { holder := h, aim := .connect } g₁ .connected) :
      Goes id (g, .requesting (.connecting r false false) { holder := h, aim := .connect })
        (proceed (τ := Registry.Found) h r.get r.lines r.rest g₁) ∧
        g₁.unavailable = g.unavailable :=
    ⟨(goes_of_ends hends (.connecting r false false)).tail rfl, hends.unavailable⟩
  rcases ho with ⟨x, hs, hx⟩ | ⟨hs, he⟩
  · obtain ⟨g₁, hends, hs₁, hr₁⟩ := Access.ends_join id hs
    refine ⟨g₁, ⟨x, hs₁, fun bean attributeName => ?_⟩, hgoes hends⟩
    rw [hr₁]
    exact hx bean attributeName
  · obtain ⟨found, r₁, x, hreach, hest, hx⟩ := Registry.establish_of_available he
    obtain ⟨g₁, hends, hs₁, hr₁⟩ := Access.ends_connect id hs hreach hest
    refine ⟨g₁, ⟨x, hs₁, fun bean attributeName => ?_⟩, hgoes hends⟩
    rw [hr₁]
    exact hx bean attributeName

/-- **A request that gets a holder of its endpoint** is answered by what the endpoint has. -/
theorem answered_beginLine (id : TaskId) (e : Endpoint) {line : String} {get : Get}
    (hp : Command.parse line = .ok (.get get))
    (ho : ∀ {g₁ : Gateway Registry Nat}, g.Counts g₁ →
      (g₁.acquire get.endpoint).2.Offering (g₁.acquire get.endpoint).1 e) :
    Answered id e get.template [] get.queries g.unavailable (g, .beginning (.answer line)) := by
  obtain ⟨g₁, hc, hcount₁, hbegin⟩ := goes_beginLine id hp g
  obtain ⟨g₂, hserving, hgoes, hcount₂⟩ :=
    goes_connecting id ⟨get, [], get.queries⟩ (ho hc)
  obtain ⟨g', hg', hcount⟩ := answered_proceed id get [] get.queries hserving
  refine ⟨g', (hbegin.trans hgoes).trans hg', ?_⟩
  rw [hcount, hcount₂, Gateway.unavailable_acquire, hcount₁]

end Activity

/-! ### The endpoint that is read -/

namespace Gateway

variable {g g' : Gateway Registry Nat} {url : String} {e : Endpoint} {f : Fault} {h : HolderId}
  {x : Nat}

/-- A gateway whose holders nobody uses: the sessions of connected ones are open. -/
structure Resting (g : Gateway Registry Nat) : Prop where
  /-- No lock is held or waited for. -/
  free : ∀ h, g.lock h = {}
  /-- Every cached holder has been made, for its URL. -/
  keyed : g.Keyed
  /-- The session of a holder is open. -/
  opened : ∀ {h x}, g.link h = .connected x → g.remote.IsOpen x

/-- The endpoint that a request for a URL reads, or why it reads none: the endpoint with which the
cached holder has its session; none if this holder is closed; otherwise the one with which a session
is opened. -/
def available (g : Gateway Registry Nat) (url : String) : Except Fault Endpoint :=
  match (g.cached? url).map g.link with
  | some (.connected x) => .ok ((g.remote.sessions[x]?).elim {} (g.remote.endpointAt ·.endpoint))
  | some .closed => .error (.holderClosed url)
  | _ => g.remote.available url

/-- The endpoint that a request for a URL reads, if it reads one. -/
def source? (g : Gateway Registry Nat) (url : String) : Option Endpoint :=
  (g.available url).toOption

/-- What a request is answered. -/
def reply (g : Gateway Registry Nat) (get : Get) : Response :=
  match g.available get.endpoint with
  | .ok e => e.reply get
  | .error f => .ofFault f

theorem available_of_connected {session : Session} (hc : g.cached? url = some h)
    (hk : g.link h = .connected x) (hx : g.remote.sessions[x]? = some session) :
    g.available url = .ok (g.remote.endpointAt session.endpoint) := by
  rw [available, hc, Option.map_some, hk]
  simp only [hx, Option.elim_some]

theorem available_of_closed (hc : g.cached? url = some h) (hk : g.link h = .closed) :
    g.available url = .error (.holderClosed url) := by
  rw [available, hc, Option.map_some, hk]

theorem available_of_disconnected
    (hd : ∀ h, g.cached? url = some h → g.link h = .disconnected) :
    g.available url = g.remote.available url := by
  rw [available]
  cases hc : g.cached? url with
  | none => rfl
  | some h => rw [Option.map_some, hd h hc]

theorem Counts.holder_eq (hc : g.Counts g') (h : HolderId) : g'.holder h = g.holder h := by
  rw [holder, holder, hc.holders]

theorem Counts.available (hc : g.Counts g') : g'.available url = g.available url := by
  have hlink : g'.link = g.link := funext fun h => congrArg Holder.link (hc.holder_eq h)
  rw [Gateway.available, Gateway.available, cached?, cached?, hc.cache, hc.remote, hlink]

theorem Counts.resting (hc : g.Counts g') (hs : g.Resting) : g'.Resting where
  free h := (congrArg Holder.lock (hc.holder_eq h)).trans (hs.free h)
  keyed := hs.keyed.grows hc.evolves.grows
  opened {h x} hk := by
    rw [hc.remote]
    exact hs.opened ((congrArg Holder.link (hc.holder_eq h)).symm.trans hk)

/-- Whoever looks up a URL gets a cached holder, through which the endpoint of its session is read
or which is closed, or a holder that is not connected and that nobody else uses. -/
theorem Resting.acquired (hs : g.Resting) (url : String) :
    (∃ h x session, g.cached? url = some h ∧ g.link h = .connected x ∧
        g.remote.sessions[x]? = some session ∧
        (g.acquire url).2.Serving (g.acquire url).1 (g.remote.endpointAt session.endpoint)) ∨
      (∃ h, g.cached? url = some h ∧ g.link h = .closed ∧ g.acquire url = (h, g) ∧
        g.Stands h {} .closed ∧ g.endpoint h = url) ∨
      (∀ h, g.cached? url = some h → g.link h = .disconnected) ∧
        (g.acquire url).2.Stands (g.acquire url).1 {} .disconnected ∧
        (g.acquire url).2.endpoint (g.acquire url).1 = url ∧
        (g.acquire url).2.remote = g.remote := by
  rcases acquire_cases g url with ⟨h, hc, hacq⟩ | ⟨hc, hacq⟩
  · obtain ⟨hmade, hend⟩ := hs.keyed url h hc
    rw [hacq]
    cases hk : g.link h with
    | disconnected =>
      refine .inr (.inr ⟨fun h' hc' => ?_, ⟨hmade, hs.free h, hk⟩, hend, rfl⟩)
      cases hc.symm.trans hc'
      exact hk
    | closed => exact .inr (.inl ⟨h, hc, hk, rfl, ⟨hmade, hs.free h, hk⟩, hend⟩)
    | connected x =>
      obtain ⟨j, u, hx⟩ := hs.opened hk
      refine .inl ⟨h, x, _, hc, hk, hx, x, ⟨hmade, hs.free h, hk⟩, fun bean attributeName => ?_⟩
      rw [Registry.read, hx]
      rfl
  · have hnew := (holder_addHolder g url g.holders.length).trans (if_pos rfl)
    rw [hacq]
    refine .inr (.inr ⟨fun h hc' => ?_, ⟨?_, congrArg Holder.lock hnew, congrArg Holder.link hnew⟩,
      congrArg Holder.endpoint hnew, rfl⟩)
    · cases hc.symm.trans hc'
    · simp [Made, gauge, count, addHolder]

/-- Whoever looks up a URL whose endpoint is available gets a holder that has an open session with
it or can be connected to it. -/
theorem Resting.offering (hs : g.Resting) (h : g.available url = .ok e) :
    (g.acquire url).2.Offering (g.acquire url).1 e := by
  rcases hs.acquired url with ⟨h', x, session, hc, hk, hx, hserving⟩ | ⟨h', hc, hk, -⟩ |
    ⟨hd, hstands, hend, hremote⟩
  · cases h.symm.trans (available_of_connected hc hk hx)
    exact .inl hserving
  · cases h.symm.trans (available_of_closed hc hk)
  · rw [available_of_disconnected hd] at h
    exact .inr ⟨hstands, by rw [hend, hremote, h]⟩

end Gateway

namespace Activity

variable {g : Gateway Registry Nat} {f : Fault} {get : Get} {r : Reading} {line : String}

/-- A request that meets a closed holder in the cache meets it twice, and is told of it. -/
theorem goes_closed (id : TaskId) {h : HolderId} (hc : g.cached? r.get.endpoint = some h)
    (hs : g.Stands h {} .closed) (hend : g.endpoint h = r.get.endpoint) :
    ∃ g', Goes id (connect (τ := Registry.Found) r false false g)
        (g', .finished (.answered (.ofFault (.holderClosed r.get.endpoint)))) ∧
      g'.unavailable = g.unavailable := by
  -- The lookup finds the closed holder, and leaves the gateway as it is.
  have hconnect {g : Gateway Registry Nat} (hc : g.cached? r.get.endpoint = some h)
      (again : Bool) : connect (τ := Registry.Found) r false again g =
        (g, .requesting (.connecting r false again) { holder := h, aim := .connect }) := by
    rw [connect, Gateway.acquire, hc]
  obtain ⟨g₁, hends₁, hs₁, ht⟩ := Access.ends_refused (τ := Registry.Found) id hs
  have hc₁ : g₁.cached? r.get.endpoint = some h := ht.cached?.trans hc
  obtain ⟨g₂, hends₂, -⟩ := Access.ends_refused (τ := Registry.Found) id hs₁
  have hcount := hends₂.unavailable.trans hends₁.unavailable
  rw [ht.endpoint h] at hends₂
  rw [hend] at hends₁ hends₂
  rw [hconnect hc]
  refine ⟨_, (goes_of_ends hends₁ (.connecting r false false)).trans (.head (congrArg some ?_)
    ((goes_of_ends hends₂ (.connecting r false true)).tail rfl)), hcount⟩
  exact hconnect hc₁ true

/-- A request for an endpoint that is not available is told why. -/
theorem goes_unavailable (id : TaskId) (hs : g.Resting)
    (h : g.available r.get.endpoint = .error f) :
    ∃ g', Goes id (connect (τ := Registry.Found) r false false g)
      (g', .finished (.answered (.ofFault f))) ∧ g'.unavailable = g.unavailable := by
  rcases hs.acquired r.get.endpoint with ⟨h', x, session, hc, hk, hx, -⟩ |
    ⟨h', hc, hk, -, hstands, hend⟩ | ⟨hd, hstands, hend, hremote⟩
  · cases h.symm.trans (Gateway.available_of_connected hc hk hx)
  · cases h.symm.trans (Gateway.available_of_closed hc hk)
    exact goes_closed id hc hstands hend
  · rw [Gateway.available_of_disconnected hd] at h
    obtain ⟨error, rfl, hfails⟩ := Registry.fails_of_available h
    obtain ⟨g₁, hends⟩ :=
      Access.ends_connect_failed id hstands (by rw [hend, hremote]; exact hfails)
    exact ⟨_, (goes_of_ends hends (.connecting r false false)).tail rfl,
      hends.unavailable.trans (Gateway.unavailable_acquire ..)⟩

/-- **A request that nobody interferes with** is answered by what its endpoint has, or told why
there is none; and what has missed is counted. -/
theorem goes_get (id : TaskId) (hs : g.Resting) (hp : Command.parse line = .ok (.get get)) :
    ∃ g', Goes (τ := Registry.Found) id (g, .beginning (.answer line))
        (g', .finished (.answered (g.reply get))) ∧
      g'.unavailable = g.unavailable +
        (g.source? get.endpoint).elim 0 fun e => e.missed get.template get.queries := by
  rw [Gateway.reply, Gateway.source?]
  cases ha : g.available get.endpoint with
  | ok e =>
    exact answered_beginLine id e hp fun hc => (hc.resting hs).offering (hc.available.trans ha)
  | error f =>
    obtain ⟨g₁, hc, hcount₁, hbegin⟩ := goes_beginLine id hp g
    obtain ⟨g', hg', hcount⟩ := goes_unavailable (r := ⟨get, [], get.queries⟩) id (hc.resting hs)
      (hc.available.trans ha)
    exact ⟨g', hbegin.trans hg', hcount.trans hcount₁⟩

end Activity

end AttributeGateway
