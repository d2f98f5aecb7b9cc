import AttributeGateway.Proofs.Gateway.Accounts
import AttributeGateway.Proofs.Gateway.Transparency
import Mathlib.Data.List.Forall2

/-!
# What is counted as unavailable

An attribute that could not be had is answered by the sentinel and counted, as long as the request
goes on. Requests that are answered one after the other are therefore counted by the endpoints that
they read: a query counts if it misses and no query before it has spoiled the answer. This is not
the number of sentinels that have been sent: a query that finds a null value is answered by the
sentinel without being counted, and what a spoiled request has missed stays counted.

* `Endpoint.lacks` — the queries that are answered by the sentinel: those that miss and those that
  find a null value.
* `Exchange` — a request to read attributes, the endpoint that it reads, and its answer;
  `Exchange.missed` and `Exchange.promised` count in the two ways.
* `System.InTurn` — requests that are answered one after the other.
* `System.failures_counted` — both counters grow by what the requests have missed.
-/

namespace AttributeGateway

namespace Endpoint

variable {e : Endpoint} {t : Template} {q : Query} {queries : List Query}

/-- Whether the value for a query is null. -/
def isNull (e : Endpoint) (q : Query) : Bool :=
  match e.find q with
  | .ok v => v.isNull
  | .error _ => false

/-- Whether a query is answered by the sentinel because there is no value for it, or none that can
be shown. -/
def lacks (e : Endpoint) (t : Template) (q : Query) : Bool := e.misses t q || e.isNull q

theorem misses_of_isNull (h : e.isNull q = true) : e.misses t q = false := by
  rw [isNull] at h
  rw [misses]
  cases hf : e.find q with
  | error f => simp [hf] at h
  | ok v =>
    simp only [hf] at h
    simp only [Template.line, h, if_true, Option.isNone_some]

/-- A query that misses is no query that finds a null value. -/
theorem countP_lacks (queries : List Query) :
    queries.countP (e.lacks t) = queries.countP (e.misses t) + queries.countP e.isNull := by
  induction queries with
  | nil => rfl
  | cons q queries ih =>
    have hnot := misses_of_isNull (e := e) (t := t) (q := q)
    rw [List.countP_cons, List.countP_cons, List.countP_cons, ih, lacks]
    cases hm : e.misses t q <;> cases hn : e.isNull q <;> simp [hm, hn] at hnot ⊢ <;> omega

/-- A query that lacks a value is answered by the sentinel. -/
theorem line_of_lacks (h : e.lacks t q = true) : e.line t q = .ok notAvailable := by
  rw [lacks, misses, isNull] at h
  rw [line]
  cases hf : e.find q with
  | error f =>
    simp only [hf, Bool.or_false] at h
    exact if_pos h
  | ok v =>
    simp only [hf, Bool.or_eq_true, Option.isNone_iff_eq_none] at h
    rcases h with h | h
    · simp only [h, Option.getD_none]
    · simp only [Template.line, h, if_true, Option.getD_some]

/-- If a request is answered by lines, there is one for each query, and no query has spoiled the
answer. -/
theorem lines_of_mapM {lines : List String} (h : queries.mapM (e.line t) = .ok lines) :
    List.Forall₂ (fun q l => e.line t q = .ok l) queries lines ∧
      e.missed t queries = queries.countP (e.misses t) := by
  induction queries generalizing lines with
  | nil =>
    cases h
    exact ⟨.nil, rfl⟩
  | cons q queries ih =>
    rw [List.mapM_cons] at h
    cases hl : e.line t q with
    | error f =>
      rw [hl] at h
      cases h
    | ok l =>
      cases hrest : queries.mapM (e.line t) with
      | error f =>
        rw [hl, hrest] at h
        cases h
      | ok rest =>
        rw [hl, hrest] at h
        cases h
        obtain ⟨hlines, hmissed⟩ := ih hrest
        refine ⟨.cons hl hlines, ?_⟩
        rw [missed_cons hl, hmissed, List.countP_cons, Nat.add_comm]
        cases e.misses t q <;> rfl

theorem lines_of_reply {get : Get} {lines : List String} (h : e.reply get = .ok lines) :
    List.Forall₂ (fun q l => e.line get.template q = .ok l) get.queries lines ∧
      e.missed get.template get.queries = get.queries.countP (e.misses get.template) := by
  rw [reply, replyBehind] at h
  split at h
  · next rest hrest =>
    cases h
    exact lines_of_mapM hrest
  · cases h

end Endpoint

/-! ### Exchanges -/

/-- A request to read attributes and its answer. -/
structure Exchange where
  get : Get
  /-- The endpoint that the request reads, if it gets to one. -/
  source : Option Endpoint
  response : Response

namespace Exchange

/-- The answer is what the endpoint has, or says that there is no connection. -/
def Sound (x : Exchange) : Prop :=
  match x.source with
  | some e => x.response = e.reply x.get
  | none => ∃ detail, x.response = .err .connectionFailed detail

/-- How many queries have missed before one of them has spoiled the answer. -/
def missed (x : Exchange) : Nat :=
  x.source.elim 0 fun e => e.missed x.get.template x.get.queries

/-- How many queries have found a null value, or would have. -/
def nulls (x : Exchange) : Nat := x.source.elim 0 fun e => x.get.queries.countP e.isNull

/-- How many queries have been answered by the sentinel: none, unless the answer is a success. -/
def promised (x : Exchange) : Nat :=
  match x.response with
  | .ok _ => x.source.elim 0 fun e => x.get.queries.countP (e.lacks x.get.template)
  | .err _ _ => 0

variable {x : Exchange} {lines : List String}

/-- A request that is answered by lines has got to an endpoint. -/
theorem Sound.source_isSome (h : x.Sound) (hr : x.response = .ok lines) :
    ∃ e, x.source = some e ∧ e.reply x.get = .ok lines := by
  rw [Sound] at h
  split at h
  · next e he => exact ⟨e, he, h.symm.trans hr⟩
  · obtain ⟨detail, hd⟩ := h
    cases hr.symm.trans hd

/-- A successful answer has the sentinel for what has missed and for null values. -/
theorem Sound.promised_eq (h : x.Sound) (hr : x.response = .ok lines) :
    x.promised = x.missed + x.nulls := by
  obtain ⟨e, he, hreply⟩ := h.source_isSome hr
  simp only [promised, hr, missed, nulls, he, Option.elim_some, Endpoint.countP_lacks,
    (Endpoint.lines_of_reply hreply).2]

/-- In a successful answer each query has its line, and the sentinel if it lacks a value. -/
theorem Sound.forall₂_lines (h : x.Sound) (hr : x.response = .ok lines) :
    ∃ e, x.source = some e ∧ List.Forall₂ (fun q l => e.line x.get.template q = .ok l ∧
      (e.lacks x.get.template q = true → l = notAvailable)) x.get.queries lines := by
  obtain ⟨e, he, hreply⟩ := h.source_isSome hr
  refine ⟨e, he, (Endpoint.lines_of_reply hreply).1.imp fun q l hl => ⟨hl, fun hlacks => ?_⟩⟩
  rw [Endpoint.line_of_lacks hlacks] at hl
  cases hl
  rfl

end Exchange

/-- At rest a request is answered soundly: a closed holder is not in the cache, so there is no fault
but that no session is opened. -/
theorem Gateway.Settled.sound {g : Gateway Registry Nat} (hs : g.Settled) (get : Get) :
    (Exchange.mk get (g.source? get.endpoint) (g.reply get)).Sound := by
  rw [Exchange.Sound, source?, reply]
  cases ha : g.available get.endpoint with
  | ok e => rfl
  | error f =>
    rcases hs.acquired get.endpoint with ⟨h, x, session, hc, hk, hx, -⟩ | ⟨h, hc, hk, -⟩ | ⟨hd, -⟩
    · cases ha.symm.trans (available_of_connected hc hk hx)
    · exact absurd hk (hs.live hc)
    · rw [available_of_disconnected hd] at ha
      obtain ⟨error, rfl, -⟩ := Registry.fails_of_available ha
      exact ⟨_, rfl⟩

namespace System

variable {s s' s₁ : System Registry Registry.Found Nat} {es : List (Event Registry Nat)}
  {remote : Registry} {workers : Permits} {line : String} {get : Get} {r : Response} {n : Nat}
  {xs : List Exchange}

/-- Requests to read attributes are answered one after the other, each with nothing else going on.
In between the endpoints may change, but not the sessions with them. -/
inductive InTurn : System Registry Registry.Found Nat → List Exchange →
    System Registry Registry.Found Nat → Prop where
  /-- No request. -/
  | nil (s : System Registry Registry.Found Nat) : InTurn s [] s
  /-- The endpoints change. -/
  | alter {s s₁ s' : System Registry Registry.Found Nat} {xs : List Exchange}
      {change : Registry → Registry}
      (hsessions : (change s.gateway.remote).sessions = s.gateway.remote.sessions)
      (he : s.after? (.alter change) = some s₁) (h : InTurn s₁ xs s') : InTurn s xs s'
  /-- A request is answered. -/
  | ask {s s₁ s' : System Registry Registry.Found Nat} {xs : List Exchange} {line : String}
      {get : Get} {n : Nat} {r : Response} (hp : Command.parse line = .ok (.get get))
      (hr : Run s (.begin (.answer line) :: List.replicate n (.advance s.tasks.length)) s₁)
      (hres : s₁.result? s.tasks.length = some (.answered r)) (h : InTurn s₁ xs s') :
      InTurn s (⟨get, s.gateway.source? get.endpoint, r⟩ :: xs) s'

theorem atRest_append (hs : AtRest s) (g : Gateway Registry Nat) (res : Result Nat) :
    AtRest ⟨g, s.tasks ++ [some ⟨.finished res, false⟩]⟩ := by
  rw [AtRest, List.all_append, Bool.and_eq_true]
  exact ⟨hs, rfl⟩

/-- A request that is answered leaves the system at rest again. -/
theorem asked_alone (hr : RunWhere Ordinary (start remote workers) es s) (hs : AtRest s)
    (hp : Command.parse line = .ok (.get get)) :
    ∃ n s₁ r, Run s (.begin (.answer line) :: List.replicate n (.advance s.tasks.length)) s₁ ∧
      s₁.result? s.tasks.length = some (.answered r) ∧ AtRest s₁ ∧
      (Exchange.mk get (s.gateway.source? get.endpoint) r).Sound ∧
      s₁.gateway.unavailable = s.gateway.unavailable +
        (Exchange.mk get (s.gateway.source? get.endpoint) r).missed := by
  have hsettled := settled_of_run hr hs
  obtain ⟨g', hg, hcount⟩ := Activity.goes_get s.tasks.length hsettled.toResting hp
  obtain ⟨n, hr₁⟩ := run_of_goes_begin hg
  exact ⟨n, _, _, hr₁, result?_append .., atRest_append hs _ _, hsettled.sound get, hcount⟩

/-- Steps of a request come as they come from a client. -/
theorem ordinary_of_asked {id : TaskId}
    (hr : Run s (.begin (.answer line) :: List.replicate n (.advance id)) s₁) :
    RunWhere Ordinary s (.begin (.answer line) :: List.replicate n (.advance id)) s₁ := by
  refine hr.runWhere fun u e he => ?_
  rcases List.mem_cons.1 he with rfl | he
  · exact ⟨⟨trivial, trivial⟩, trivial⟩
  · obtain ⟨-, rfl⟩ := List.mem_replicate.1 he
    exact ⟨⟨trivial, trivial⟩, trivial⟩

/-- Requests that are answered one after the other are answered soundly; the system comes to rest
again, and what has missed is counted. -/
theorem InTurn.counted (hx : InTurn s xs s') (hr : RunWhere Ordinary (start remote workers) es s)
    (hs : AtRest s) :
    (∃ es', RunWhere Ordinary (start remote workers) es' s') ∧ AtRest s' ∧
      (∀ x ∈ xs, x.Sound) ∧
      s'.gateway.unavailable = s.gateway.unavailable + (xs.map Exchange.missed).sum := by
  induction hx generalizing es with
  | nil s => exact ⟨⟨es, hr⟩, hs, nofun, rfl⟩
  | @alter s s₁ s' xs change hsessions he _ ih =>
    have hordinary : Ordinary s (.alter change) := ⟨⟨trivial, hsessions⟩, trivial⟩
    have hr₁ := RunWhere.snoc hr hordinary he
    cases he
    exact ih hr₁ hs
  | @ask s s₁ s' xs line get n r hp hr₁ hres _ ih =>
    obtain ⟨k, s₂, r', hr₂, hres', hs₂, hsound, hcount⟩ := asked_alone hr hs hp
    cases ended_unique_begin hr₁ hres hr₂ hres'
    cases hres.symm.trans hres'
    obtain ⟨hrun, hrest, hsounds, hcounts⟩ := ih (hr.trans (ordinary_of_asked hr₁)) hs₂
    refine ⟨hrun, hrest, List.forall_mem_cons.2 ⟨hsound, hsounds⟩, ?_⟩
    rw [hcounts, hcount, List.map_cons, List.sum_cons, Nat.add_assoc]

/-- Both counters of what could not be had are equal. -/
theorem attributeFailures_eq (hr : RunWhere Ordinary (start remote workers) es s) :
    s.gateway.metrics.attributeFailures = s.gateway.unavailable :=
  (booked_of_run hr.run).1.even.unavailable.symm

/-- **What is counted as unavailable**: when requests to read attributes are answered one after the
other, after any run over endpoints in memory that has come to rest, both counters grow by the
number of queries that have missed, in each request up to the one that spoils its answer. Each
request is answered by what its endpoint has, or told that there is no connection; then nothing is
counted. In a successful answer each query has its line; the sentinel stands for what has missed,
and for null values besides, which are not counted. Each further request is answered too. -/
theorem failures_counted (hr : RunWhere Ordinary (start remote workers) es s) (hs : AtRest s)
    (hx : InTurn s xs s') :
    s'.gateway.unavailable = s.gateway.unavailable + (xs.map Exchange.missed).sum ∧
    s'.gateway.metrics.attributeFailures =
      s.gateway.metrics.attributeFailures + (xs.map Exchange.missed).sum ∧
    (∀ x ∈ xs, x.Sound ∧ ∀ lines, x.response = .ok lines →
      x.promised = x.missed + x.nulls ∧
      ∃ e, x.source = some e ∧ List.Forall₂ (fun q l => e.line x.get.template q = .ok l ∧
        (e.lacks x.get.template q = true → l = notAvailable)) x.get.queries lines) ∧
    ∀ line get, Command.parse line = .ok (.get get) →
      ∃ r s'', InTurn s' [⟨get, s'.gateway.source? get.endpoint, r⟩] s'' := by
  obtain ⟨⟨es', hr'⟩, hs', hsound, hcount⟩ := hx.counted hr hs
  refine ⟨hcount, ?_, fun x hmem => ⟨hsound x hmem, fun lines hlines =>
    ⟨(hsound x hmem).promised_eq hlines, (hsound x hmem).forall₂_lines hlines⟩⟩, ?_⟩
  · rw [attributeFailures_eq hr, attributeFailures_eq hr', hcount]
  · intro line get hp
    obtain ⟨n, s₁, r, hr₁, hres, -⟩ := asked_alone hr' hs' hp
    exact ⟨r, s₁, .ask hp hr₁ hres (.nil s₁)⟩

/-- An endpoint with a number, a null value and an attribute whose channel fails. -/
def mixed : List (Event Registry Nat) :=
  [.alter fun r => (r.register "u").modify "u" fun e =>
      ((e.setAttribute "b" "a" (.int 1)).setAttribute "b" "null" .null).injectFault "b" "broken"
        (.channel "lost")]

theorem ordinary_mixed : RunWhere Ordinary inMemory mixed (inMemory.behind mixed) := by
  have hr : Run inMemory mixed (inMemory.behind mixed) := run_behind (by decide +kernel)
  refine hr.runWhere fun u e he => ?_
  rw [mixed, List.mem_singleton] at he
  subst he
  exact ⟨⟨trivial, (Registry.sessions_modify ..).trans (Registry.sessions_register ..)⟩, trivial⟩

/-- A request for the null value and for an attribute that there is not. -/
def lacking : Get := ⟨"u", .ofToken "%s", [.ofTexts "b" "null", .ofTexts "b" "none"]⟩

/-- A request for an attribute that there is not and for the one whose channel fails. -/
def spoiled : Get := ⟨"u", .ofToken "%s", [.ofTexts "b" "none", .ofTexts "b" "broken"]⟩

theorem parse_spoiled : Command.parse "GET u %s b none b broken" = .ok (.get spoiled) := by
  with_unfolding_all rfl

/-- A request that is spoiled is answered by an error. -/
theorem promised_spoiled {g : Gateway Registry Nat} {r : Response} {f : Fault}
    (h : (Exchange.mk spoiled (g.source? "u") r).Sound) (hsome : (g.source? "u").isSome)
    (hf : spoiled.queries.mapM (((g.source? "u").get hsome).line spoiled.template) = .error f) :
    r = .err .channelError f.detail ∧ (Exchange.mk spoiled (g.source? "u") r).promised = 0 := by
  have hr : r = .err .channelError f.detail := by
    rw [Exchange.Sound, ← Option.some_get hsome] at h
    simp only [Endpoint.reply, Endpoint.replyBehind, hf] at h
    exact h
  rw [hr]
  exact ⟨rfl, rfl⟩

/-- The former request, with nothing else going on. -/
def askedLacking : List (Event Registry Nat) :=
  .begin (.answer "GET u %s b null b none") :: List.replicate 18 (.advance 0)

theorem run_askedLacking : Run (inMemory.behind mixed) askedLacking
    ((inMemory.behind mixed).behind askedLacking) := run_behind (by decide +kernel)

/-- The former request is answered with two sentinels. -/
theorem inTurn_askedLacking {xs : List Exchange}
    (h : InTurn ((inMemory.behind mixed).behind askedLacking) xs s') :
    InTurn (inMemory.behind mixed)
      (⟨lacking, (inMemory.behind mixed).gateway.source? "u", .ok [notAvailable, notAvailable]⟩ ::
        xs) s' :=
  .ask (by with_unfolding_all rfl) run_askedLacking (by with_unfolding_all rfl) h

theorem promised_lacking : (Exchange.mk lacking ((inMemory.behind mixed).gateway.source? "u")
    (.ok [notAvailable, notAvailable])).promised = 2 := by decide +kernel

theorem unavailable_mixed : (inMemory.behind mixed).gateway.unavailable = 0 := by decide +kernel

/-- One after the other, two sentinels are sent with the first answer and none with the second one,
and one query of each is counted. -/
theorem failures_counted_mixed :
    ∃ xs s', InTurn (inMemory.behind mixed) xs s' ∧ xs.map Exchange.get = [lacking, spoiled] ∧
      xs.map Exchange.promised = [2, 0] ∧ s'.gateway.unavailable = 2 := by
  obtain ⟨n, s₂, r, hr₂, hres₂, -⟩ :=
    asked_alone (ordinary_mixed.trans (ordinary_of_asked run_askedLacking)) (by decide +kernel)
      parse_spoiled
  have hx := inTurn_askedLacking (.ask parse_spoiled hr₂ hres₂ (.nil s₂))
  obtain ⟨hcount, -, hsound, -⟩ := failures_counted ordinary_mixed (by decide +kernel) hx
  have hsome : (((inMemory.behind mixed).behind askedLacking).gateway.source? "u").isSome := by
    decide +kernel
  obtain ⟨-, hpromised⟩ := promised_spoiled (f := .remoteChannel "lost")
    (hsound _ (List.mem_cons_of_mem _ (List.mem_singleton_self _))).1 hsome
    (by with_unfolding_all rfl)
  have hmissed₁ : (Exchange.mk lacking ((inMemory.behind mixed).gateway.source? "u")
      (.ok [notAvailable, notAvailable])).missed = 1 := by decide +kernel
  have hmissed₂ : (Exchange.mk spoiled
      (((inMemory.behind mixed).behind askedLacking).gateway.source? "u") r).missed = 1 := by
    with_unfolding_all rfl
  refine ⟨_, _, hx, rfl, ?_, ?_⟩
  · exact congrArg₂ (fun a b => [a, b]) promised_lacking hpromised
  · rw [hcount, unavailable_mixed]
    exact congrArg₂ (fun a b => 0 + [a, b].sum) hmissed₁ hmissed₂

/-- Two sentinels are sent, and one query is counted; no sentinel is sent, but an error, and one
query is counted as well. -/
theorem not_counted_as_promised :
    (∃ x s', InTurn (inMemory.behind mixed) [x] s' ∧
      x.response = .ok [notAvailable, notAvailable] ∧ x.promised = 2 ∧
      s'.gateway.unavailable = (inMemory.behind mixed).gateway.unavailable + 1) ∧
    ∃ x s', InTurn (inMemory.behind mixed) [x] s' ∧
      x.response = .err .channelError (Fault.remoteChannel "lost").detail ∧ x.promised = 0 ∧
      s'.gateway.unavailable = (inMemory.behind mixed).gateway.unavailable + 1 := by
  rw [unavailable_mixed]
  constructor
  · exact ⟨_, _, inTurn_askedLacking (.nil _), rfl, promised_lacking, by decide +kernel⟩
  · obtain ⟨n, s₁, r, hr, hres, -, hsound, hcount⟩ :=
      asked_alone ordinary_mixed (by decide +kernel) parse_spoiled
    have hsome : ((inMemory.behind mixed).gateway.source? "u").isSome := by decide +kernel
    obtain ⟨hr', hpromised⟩ :=
      promised_spoiled (f := .remoteChannel "lost") hsound hsome (by with_unfolding_all rfl)
    have hmissed : (Exchange.mk spoiled ((inMemory.behind mixed).gateway.source? "u") r).missed =
        1 := by with_unfolding_all rfl
    refine ⟨_, s₁, .ask parse_spoiled hr hres (.nil s₁), hr', hpromised, ?_⟩
    rw [hcount, unavailable_mixed]
    exact congrArg (0 + ·) hmissed

end System

end AttributeGateway
