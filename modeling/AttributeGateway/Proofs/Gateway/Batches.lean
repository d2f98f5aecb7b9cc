import AttributeGateway.Proofs.Gateway.Failures
import AttributeGateway.Proofs.Gateway.GivingUp
import AttributeGateway.Proofs.Request.Lines
import Mathlib.Data.List.Forall2

/-!
# Batches

A request for several attributes is answered as if each of them had been asked for alone: by the
lines of all the answers, or by the first failure among them. What one query comes to depends on
the values and the faults of its endpoint, on the template and on the query; the queries before it
do not matter, nor those that have failed without spoiling the answer.

* `Endpoint.shown`, `Endpoint.spoiledBy`, `Endpoint.single` — what an endpoint answers to one query.
* `Response.joined` — the answer to a batch, from the answers to its queries; `reply_eq_joined`.
* `System.resting_of_run` — nobody uses the holders after any run that has come to rest, also when
  cached holders have been closed behind the back of the cache.
* `System.batch_of_singles` — a batch is answered as its queries are, alone.
-/

namespace AttributeGateway

/-! ### The answer to a batch -/

namespace Response

/-- The values of an answer. -/
def values : Response → List String
  | .ok values => values
  | .err _ _ => []

/-- The answer to a batch, from the answers to its items: the first failure among them; or else
their values, in order. -/
def joined (rs : List Response) : Response :=
  (rs.find? (!·.isOk)).getD (.ok (rs.flatMap values))

variable {rs : List Response} {c : ErrorCode} {detail : String} {lines more : List String}

theorem joined_err (c : ErrorCode) (detail : String) (rs : List Response) :
    joined (.err c detail :: rs) = .err c detail := rfl

theorem joined_ok_of_ok (h : joined rs = .ok more) :
    joined (.ok lines :: rs) = .ok (lines ++ more) := by
  rw [joined] at h ⊢
  rw [List.find?_cons_of_neg (by simp [isOk])]
  cases hf : rs.find? (!·.isOk) with
  | none =>
    rw [hf] at h
    cases h
    rfl
  | some r =>
    have hr := List.find?_some hf
    rw [hf] at h
    cases h
    cases hr

theorem joined_ok_of_err (h : joined rs = .err c detail) :
    joined (.ok lines :: rs) = .err c detail := by
  rw [joined] at h ⊢
  rw [List.find?_cons_of_neg (by simp [isOk])]
  cases hf : rs.find? (!·.isOk) with
  | none =>
    rw [hf] at h
    cases h
  | some r =>
    rw [hf] at h
    exact h

end Response

namespace Endpoint

variable {e e' : Endpoint} {t : Template} {q : Query} {queries : List Query} {get : Get}

/-- The line for a query: the sentinel if its path could not be read, if the attribute cannot be
had, if the path does not lead through the value, if it leads to null, or if the template does not
take the text of what it leads to; otherwise the template, filled with this text. -/
def shown (e : Endpoint) (t : Template) (q : Query) : String :=
  match q.path with
  | .error _ => notAvailable
  | .ok p =>
    match e.read q.bean p.attributeName with
    | .error _ => notAvailable
    | .ok v =>
      match v.resolve p.rest with
      | .error _ => notAvailable
      | .ok v => if v.isNull then notAvailable else (t.fill v.render).getD notAvailable

/-- What spoils the answer to a query: if its path could be read, an error of reading the attribute
that is not about the attribute. -/
def spoiledBy (e : Endpoint) (q : Query) : Option RemoteError :=
  match q.path with
  | .error _ => none
  | .ok p =>
    match e.read q.bean p.attributeName with
    | .ok _ | .error (.unreadable _) => none
    | .error error => some error

/-- What a request for one query is answered. -/
def single (e : Endpoint) (t : Template) (q : Query) : Response :=
  match e.spoiledBy q with
  | some error => .err .channelError error.message
  | none => .ok [e.shown t q]

/-- What a query is answered depends on the values and the faults of the endpoint alone. -/
theorem single_congr (hb : e'.beans = e.beans) (hf : e'.faults = e.faults) :
    e'.single t q = e.single t q := by
  have hread (bean attributeName : String) : e'.read bean attributeName =
      e.read bean attributeName := by rw [read, read, hb, hf]
  simp only [single, spoiledBy, shown, hread]

/-- The line for a query is the one that is shown, unless the answer is spoiled. -/
theorem line_cases (hq : ∀ f, q.path = .error f → f.itemLevel = true) :
    e.spoiledBy q = none ∧ e.line t q = .ok (e.shown t q) ∨
      ∃ error f, e.spoiledBy q = some error ∧ e.line t q = .error f ∧ f.detail = error.message := by
  rw [spoiledBy, line, find, shown]
  cases hp : q.path with
  | error f =>
    simp only [hq f hp, if_true]
    exact .inl ⟨trivial, trivial⟩
  | ok p =>
    dsimp only
    cases e.read q.bean p.attributeName with
    | error error =>
      cases error with
      | unreadable reason => exact .inl ⟨rfl, rfl⟩
      | connect reason | channel reason => exact .inr ⟨_, _, rfl, rfl, rfl⟩
    | ok v =>
      dsimp only
      cases hv : v.resolve p.rest with
      | error f =>
        simp only [Value.itemLevel_of_resolve hv, if_true]
        exact .inl ⟨trivial, trivial⟩
      | ok v =>
        refine .inl ⟨rfl, ?_⟩
        dsimp only
        rw [Template.line]
        split <;> rfl

theorem reply_only (hq : ∀ f, q.path = .error f → f.itemLevel = true) :
    e.reply (get.only q) = e.single get.template q := by
  rw [reply, single]
  rcases line_cases (e := e) (t := get.template) hq with ⟨hs, hl⟩ | ⟨error, f, hs, hl, hd⟩
  · rw [hs, Get.only, replyBehind_cons hl, replyBehind_nil]
    rfl
  · rw [hs, Get.only, replyBehind_cons_error hl, hd]

/-- Behind some lines, the answer of an endpoint is joined from its answers to the queries. -/
theorem replyBehind_eq (hq : ∀ q ∈ queries, ∀ f, q.path = .error f → f.itemLevel = true)
    (lines : List String) :
    e.replyBehind t lines queries = .joined (.ok lines :: queries.map (e.single t)) := by
  induction queries generalizing lines with
  | nil =>
    rw [replyBehind_nil]
    exact (congrArg Response.ok (List.append_nil lines)).symm
  | cons q queries ih =>
    obtain ⟨hq, hqueries⟩ := List.forall_mem_cons.1 hq
    rw [List.map_cons, single]
    rcases line_cases (e := e) (t := t) hq with ⟨hs, hl⟩ | ⟨error, f, hs, hl, hd⟩
    · rw [replyBehind_cons hl, ih hqueries, hs]
      dsimp only
      cases hj : Response.joined (queries.map (e.single t)) with
      | ok more =>
        rw [Response.joined_ok_of_ok hj, Response.joined_ok_of_ok (Response.joined_ok_of_ok hj),
          List.append_assoc]
      | err c detail =>
        rw [Response.joined_ok_of_err hj, Response.joined_ok_of_err (Response.joined_ok_of_err hj)]
    · rw [replyBehind_cons_error hl, hs, hd]
      exact (Response.joined_ok_of_err (Response.joined_err ..)).symm

/-- **What an endpoint answers to a batch** is joined from its answers to the queries. -/
theorem reply_eq_joined
    (hq : ∀ q ∈ get.queries, ∀ f, q.path = .error f → f.itemLevel = true) :
    e.reply get = .joined (get.queries.map (e.single get.template)) := by
  rw [reply, replyBehind_eq hq]
  cases hj : Response.joined (get.queries.map (e.single get.template)) with
  | ok more => exact Response.joined_ok_of_ok hj
  | err c detail => exact Response.joined_ok_of_err hj

end Endpoint

namespace Gateway

variable {g : Gateway Registry Nat} {get : Get} {q : Query}

/-- What a request for one query is answered. -/
def single (g : Gateway Registry Nat) (url : String) (t : Template) (q : Query) : Response :=
  match g.available url with
  | .ok e => e.single t q
  | .error f => .ofFault f

theorem reply_only (hq : ∀ f, q.path = .error f → f.itemLevel = true) :
    g.reply (get.only q) = g.single get.endpoint get.template q := by
  rw [reply, single, Get.only]
  cases g.available get.endpoint with
  | error f => rfl
  | ok e => exact Endpoint.reply_only hq

/-- What is answered to a batch is joined from what is answered to its queries. -/
theorem reply_eq_joined (hne : get.queries ≠ [])
    (hq : ∀ q ∈ get.queries, ∀ f, q.path = .error f → f.itemLevel = true) :
    g.reply get = .joined (get.queries.map (g.single get.endpoint get.template)) := by
  rw [reply]
  cases ha : g.available get.endpoint with
  | ok e =>
    have hsingle : g.single get.endpoint get.template = e.single get.template :=
      funext fun q => by rw [single, ha]
    rw [hsingle]
    exact Endpoint.reply_eq_joined hq
  | error f =>
    -- Every query is told of the same fault, the first one too.
    obtain ⟨q, queries, hqs⟩ := List.exists_cons_of_ne_nil hne
    rw [hqs, List.map_cons, single, ha]
    rfl

end Gateway

namespace System

variable {s : System Registry Registry.Found Nat} {es : List (Event Registry Nat)}
  {remote : Registry} {workers : Permits} {line : String} {get : Get} {r : Response}

/-! ### Runs that have come to rest -/

/-- Events as they come from clients and from endpoints: holders and sessions that they name have
been handed out, and endpoints change without their sessions. Holders may be closed behind the back
of the cache, and tasks may be dropped wherever they stand. -/
def Genuine (s : System Registry Registry.Found Nat) (e : Event Registry Nat) : Prop :=
  Knows s e ∧ ∀ change, e = .alter change →
    (change s.gateway.remote).sessions = s.gateway.remote.sessions

/-- Every such event leaves the session of a holder open. -/
theorem kept_of_genuine (hr : RunWhere Genuine (start remote workers) es s) : Kept s := by
  refine hr.preserves (fun {u e u'} hu hg he => ⟨hu.disciplined.change (change_of_after? he), ?_⟩)
    (kept_of_run (.nil _))
  cases e with
  | abandon id =>
    cases he
    exact hu.owned.trade (trade_of_abandon u id)
  | alter change => exact hu.owned.after? hu.disciplined ⟨hg.1, hg.2 change rfl⟩ he
  | _ => exact hu.owned.after? hu.disciplined ⟨hg.1, trivial⟩ he

theorem resting_of_run (hr : RunWhere Genuine (start remote workers) es s) (hs : AtRest s) :
    s.gateway.Resting :=
  ⟨hs.free (kept_of_genuine hr).disciplined, keyed_of_run hr.run, (kept_of_genuine hr).owned.opened⟩

/-- There is a line for a request, and with nothing else going on every such line has one answer. -/
def AnswersGet (s : System Registry Registry.Found Nat) (get : Get) (r : Response) : Prop :=
  (∃ line, Command.parse line = .ok (.get get)) ∧
    ∀ line, Command.parse line = .ok (.get get) → ∀ r', s.AnswersAlone line r' ↔ r' = r

theorem AnswersGet.unique {r' : Response} (h : s.AnswersGet get r) (h' : s.AnswersGet get r') :
    r = r' := by
  obtain ⟨⟨line, hp⟩, hr⟩ := h
  exact (h'.2 line hp r).1 ((hr line hp r).2 rfl)

/-- At rest a request is answered by what its endpoint has, or told why there is none. -/
theorem answersGet_reply (hs : s.gateway.Resting) (hp : Command.parse line = .ok (.get get)) :
    s.AnswersGet get (s.gateway.reply get) := by
  refine ⟨⟨line, hp⟩, fun line hp r' => ?_⟩
  obtain ⟨g', hg', -⟩ := Activity.goes_get s.tasks.length hs hp
  have hanswer := answersAlone_of_goes hg'
  exact ⟨fun h => h.unique hanswer, fun h => h ▸ hanswer⟩

/-- **A batch is answered as its queries are, alone**, after any run over endpoints in memory that
has come to rest. A request for one of its queries has one answer: the line that the endpoint shows
for the query, unless reading the attribute fails so that the answer is spoiled, or the endpoint is
not available. The batch has one answer, which is joined from those to its queries: the first
failure among them, or else all their lines in order. What an endpoint answers to a query depends on
nothing of it but its values and its faults; and whatever else happens, the request reads only what
its queries need, hence nothing for a query whose path could not be read. -/
theorem batch_of_singles (hr : RunWhere Genuine (start remote workers) es s) (hs : AtRest s)
    (hp : Command.parse line = .ok (.get get)) :
    (∀ q ∈ get.queries,
      s.AnswersGet (get.only q) (s.gateway.single get.endpoint get.template q)) ∧
    (∀ rs, List.Forall₂ (fun q r => s.AnswersGet (get.only q) r) get.queries rs →
      s.AnswersGet get (.joined rs)) ∧
    (∀ e e' : Endpoint, e'.beans = e.beans → e'.faults = e.faults →
      ∀ q, e'.single get.template q = e.single get.template q) ∧
    ∀ es' u a bean attributeName, Run (s.begin (.answer line)) es' u →
      u.access? s.tasks.length = some a → a.aim = .fetch bean attributeName →
        ∃ q ∈ get.queries, q.Needs bean attributeName := by
  have hrest := resting_of_run hr hs
  have hlevel (q : Query) (hq : q ∈ get.queries) (f : Fault) (hf : q.path = .error f) :
      f.itemLevel = true := Command.itemLevel_of_query hp hq hf
  have hsingle (q : Query) (hq : q ∈ get.queries) :
      s.AnswersGet (get.only q) (s.gateway.single get.endpoint get.template q) := by
    obtain ⟨line', hp'⟩ := Command.exists_line_only hp hq
    rw [← Gateway.reply_only (hlevel q hq)]
    exact answersGet_reply hrest hp'
  refine ⟨hsingle, fun rs hrs => ?_, fun e e' hb hf q => Endpoint.single_congr hb hf,
    fun es' u a bean attributeName hrun ha haim => needs_of_run hr.run hp hrun ha haim⟩
  have hne : get.queries ≠ [] := List.ne_nil_of_length_pos (Command.asksFor_of_get hp).1
  -- There is no other answer to a query than the one that is known already.
  have hknown : List.Forall₂ (fun q r => s.gateway.single get.endpoint get.template q = r)
      get.queries rs :=
    ((List.forall₂_and_left _ _).2 ⟨hsingle, hrs⟩).imp fun q r h => h.1.unique h.2
  have heq : get.queries.map (s.gateway.single get.endpoint get.template) = rs := by
    rwa [← List.forall₂_eq_eq_eq, List.forall₂_map_left_iff]
  rw [← heq, ← Gateway.reply_eq_joined hne hlevel]
  exact answersGet_reply hrest hp

/-- A request for a number, for a null value, and by a path that cannot be read for an attribute
whose channel fails. -/
def spared : Get :=
  ⟨"u", .ofToken "%s", [.ofTexts "b" "a", .ofTexts "b" "null", .ofTexts "b" "broken..x"]⟩

/-- The same, and then for the attribute whose channel fails. -/
def unspared : Get := { spared with queries := spared.queries ++ [.ofTexts "b" "broken"] }

/-- The failing channel spoils the whole answer, but only if it is read. -/
theorem batch_of_singles_mixed :
    (inMemory.behind mixed).AnswersGet spared (.ok ["1", notAvailable, notAvailable]) ∧
    (inMemory.behind mixed).AnswersGet unspared (.err .channelError "lost") := by
  have hr : RunWhere Genuine inMemory mixed (inMemory.behind mixed) :=
    ordinary_mixed.mono fun u e he => ⟨he.1.1, fun change hc => by subst hc; exact he.1.2⟩
  have hspared : Command.parse "GET u %s b a b null b broken..x" = .ok (.get spared) := by
    with_unfolding_all rfl
  have hunspared : Command.parse "GET u %s b a b null b broken..x b broken" =
      .ok (.get unspared) := by with_unfolding_all rfl
  have hjoined : Response.joined (spared.queries.map
      ((inMemory.behind mixed).gateway.single "u" spared.template)) =
        .ok ["1", notAvailable, notAvailable] := by decide +kernel
  have hjoined' : Response.joined (unspared.queries.map
      ((inMemory.behind mixed).gateway.single "u" unspared.template)) =
        .err .channelError "lost" := by decide +kernel
  constructor
  · obtain ⟨hsingle, hbatch, -⟩ := batch_of_singles hr (by decide +kernel) hspared
    rw [← hjoined]
    exact hbatch _ (List.forall₂_map_right_iff.2 (List.forall₂_same.2 hsingle))
  · obtain ⟨hsingle, hbatch, -⟩ := batch_of_singles hr (by decide +kernel) hunspared
    rw [← hjoined']
    exact hbatch _ (List.forall₂_map_right_iff.2 (List.forall₂_same.2 hsingle))

end System

end AttributeGateway
