import AttributeGateway.Proofs.Gateway.Closers
import AttributeGateway.Proofs.Gateway.Closing
import AttributeGateway.Proofs.Request.Items

/-!
# Requests that meet closed holders

A request to read attributes looks its holder up, and until it has answered it may be hit by a
close: while it waits for the lock, after it has connected, and before each of its reads. Each time
it goes on once with a fresh holder. So when it fails because a holder is closed, it has met two of
them; neither was closed when the request began, and nobody closes two holders of one endpoint.

* `Access.Told` — the remote side reports an error to an access that ends its request;
  `Access.Step.failed` — besides that an access fails only because its holder is closed, or in a way
  that concerns a single attribute.
* `Activity.Aimed` — whoever wants a holder connected accesses it for nothing else.
* `Activity.Asking`, `Activity.Phase` — what a request knows of its holders while it goes on;
  `Phase.onward` and `Phase.quiet` say that its steps keep it.
* `System.TwoClosed`, `System.Reported` — what can have happened meanwhile.
* `explained_error` — in every run in which holders are closed by way of the cache, a request that
  has failed has had such an error reported to it, or two holders of its endpoint have been closed
  by two other tasks.
-/

namespace AttributeGateway

variable {ρ τ σ : Type}

/-! ### How an access fails -/

namespace Access

variable [Remote ρ τ σ] {a : Access τ σ} {g g' : Gateway ρ σ} {id : TaskId} {f : Fault}

/-- The remote side reports an error to the next step of an access that ends its request, so none
about a single attribute. -/
inductive Told (a : Access τ σ) (g : Gateway ρ σ) : RemoteError → Prop where
  /-- The endpoint is not found. -/
  | reach {error : RemoteError} (hs : a.stage = .excluding) (ha : a.aim ≠ .close)
      (hk : g.link a.holder = .disconnected)
      (hr : (Remote.reach (g.endpoint a.holder) g.remote).1 = .error error) : Told a g error
  /-- No session can be opened. -/
  | establish {found : τ} {error : RemoteError} (hs : a.stage = .establishing found)
      (hr : (Remote.establish found g.remote).1 = .error error) : Told a g error
  /-- Nothing can be read any more. -/
  | read {x : σ} {bean attributeName : String} {error : RemoteError} (hs : a.stage = .reading x)
      (ha : a.aim = .fetch bean attributeName)
      (hr : (Remote.read x bean attributeName g.remote).1 = .error error)
      (hi : (Fault.ofRemote error).itemLevel = false) : Told a g error

/-- An access fails because its holder is closed, because of what the remote side reports, or for a
reason of the gateway's own. -/
theorem Step.failed (h : a.Step id g g' (.inr (.failed f))) :
    f = .holderClosed (g.endpoint a.holder) ∧ g.link a.holder = .closed ∨
      f.isHolderClosed = false ∧
        (f.itemLevel = false → ∃ error, a.Told g error ∧ f.detail = error.message) ∨
      ∃ reason, f = .internal reason := by
  generalize hn : (Sum.inr (.failed f) : Next τ σ) = n at h
  cases h with
  | refuse hs hl hk =>
    cases hn
    exact .inl ⟨rfl, hk⟩
  | miss hs ha hl hk hr =>
    cases hn
    exact .inr (.inl ⟨rfl, fun _ => ⟨_, .reach hs ha hk hr, rfl⟩⟩)
  | fail hs hr =>
    cases hn
    exact .inr (.inl ⟨rfl, fun _ => ⟨_, .establish hs hr, rfl⟩⟩)
  | lose hs ha hk =>
    cases hn
    exact .inr (.inr ⟨_, rfl⟩)
  | read hs ha =>
    rw [readOutcome] at hn
    split at hn
    · cases hn
    · next error hr =>
      cases hn
      refine .inr (.inl ⟨?_, fun hi => ⟨error, .read hs ha hr hi, ?_⟩⟩) <;> cases error <;> rfl
  | _ => cases hn

/-- Connecting a holder fails only as a failing connection. -/
theorem Step.code_of_connect (h : a.Step id g g' (.inr (.failed f))) (ha : a.aim = .connect) :
    f.code = .connectionFailed := by
  generalize hn : (Sum.inr (.failed f) : Next τ σ) = n at h
  cases h with
  | refuse | miss | fail =>
    cases hn
    rfl
  | lose _ haim | read _ haim =>
    rw [ha] at haim
    cases haim
  | _ => cases hn

end Access

/-! ### What a request accesses a holder for -/

/-- A failing connection is no fault of a single attribute. -/
theorem Fault.itemLevel_of_code {f : Fault} (h : f.code = .connectionFailed) :
    f.itemLevel = false := by
  cases f <;> first | rfl | cases h

namespace Activity

variable {g g' : Gateway ρ σ} {id : TaskId} {act act' : Activity τ σ}
  {next : Gateway ρ σ × Activity τ σ}

/-- A request that has a holder connected accesses it for nothing else, and has failed only as a
failing connection. -/
def Aimed : Activity τ σ → Prop
  | .requesting (.connecting _ _ _) a => a.aim = .connect
  | .returning (.connecting _ _ _) _ (.failed f) => f.code = .connectionFailed
  | _ => True

theorem Turn.aimed {h : HolderId} {r : Reading} {inside : Bool} {failed : Fault → Prop}
    (ht : Turn h r inside failed g next) : next.2.Aimed := by
  cases ht with
  | done | fetch | giveUp => trivial

theorem Aimed.step [Remote ρ τ σ] (ha : act.Aimed) (h : act.step id g = some (g', act')) :
    act'.Aimed := by
  cases haccess : act.access? with
  | some a =>
    obtain ⟨n, hn, rfl⟩ := step_access haccess h
    cases act with
    | requesting p b =>
      cases haccess
      cases p with
      | connecting r inside again =>
        cases n with
        | inl a' => exact hn.same.2.trans ha
        | inr o =>
          cases o with
          | failed f => exact hn.code_of_connect ha
          | connected | fetched | closed => trivial
      | fetching | givingUp | dropping => cases n <;> trivial
    | accessing | clearing => cases n <;> trivial
    | _ => cases haccess
  | none =>
    have hq := quiet_of_step haccess h
    generalize hnext : (g', act') = next at hq
    have haimed : next.2.Aimed := by
      cases hq with
      | get => rfl
      | resume hr =>
        cases hr with
        | reconnect | refresh => rfl
        | refuse | gaveUp | dropped => trivial
        | goOn _ ht | settle _ ht => exact ht.aimed
      | search hact => obtain ⟨found, rfl⟩ | ⟨error, rfl⟩ := hact <;> trivial
      | _ => trivial
    rwa [← hnext] at haimed

end Activity

/-! ### What a request knows of its holders -/

/-- Holders have stayed what they are, and those that were closed are closed. -/
structure Gateway.Ages (g g' : Gateway ρ σ) : Prop where
  /-- No holder is lost or has another endpoint. -/
  grows : g.Grows g'
  /-- A closed holder is closed for good. -/
  closed : ∀ {h}, g.link h = .closed → g'.link h = .closed

theorem Gateway.Evolves.ages {g g' : Gateway ρ σ} (he : g.Evolves g') : g.Ages g' :=
  ⟨he.grows, fun hk => (he.link _).trans hk⟩

/-- Whoever looks an endpoint up gets a holder of it that is not closed; and what was closed before
is closed still. -/
structure Gateway.Offers (g₀ g : Gateway ρ σ) : Prop where
  /-- Every cached holder has been made, for its URL. -/
  keyed : g.Keyed
  /-- No cached holder is closed. -/
  live : ∀ {u h}, g.cached? u = some h → g.link h ≠ .closed
  /-- A closed holder is closed for good. -/
  closed : ∀ {h}, g₀.link h = .closed → g.link h = .closed

/-- A purpose of a request that still asks for attributes, with what it has left to answer; `again`
says whether it has met a closed holder since it got that far. -/
inductive Purpose.Asks : Purpose → Reading → (again : Bool) → Prop where
  /-- A holder is to be connected. -/
  | connecting (r : Reading) (inside again : Bool) :
    Asks (.connecting r inside again) r (inside || again)
  /-- An attribute is to be read. -/
  | fetching (r : Reading) (again : Bool) : Asks (.fetching r again) r again

namespace Activity

variable {g₀ g g' : Gateway ρ σ} {get : Get} {E E' : String → Prop} {act : Activity τ σ}
  {h h' : HolderId} {r r' : Reading} {again inside : Bool} {p : Purpose} {o : Outcome} {f : Fault}
  {url line : String} {a : Access τ σ} {next : Gateway ρ σ × Activity τ σ} {id : TaskId}

/-- A holder of an endpoint that was not closed when the request began. -/
structure Candidate (g₀ g : Gateway ρ σ) (url : String) (h : HolderId) : Prop where
  /-- The holder has been made. -/
  made : g.Made h
  /-- It belongs to the endpoint. -/
  endpoint : g.endpoint h = url
  /-- It was not closed when the request began. -/
  live : g₀.link h ≠ .closed

theorem Candidate.mono (hc : Candidate g₀ g url h) (hg : g.Ages g') : Candidate g₀ g' url h :=
  ⟨hg.grows.made hc.made, (hg.grows.endpoint hc.made).trans hc.endpoint, hc.live⟩

/-- A request that goes on with a holder, and knows a closed one if it has met one. -/
structure Asking (g₀ g : Gateway ρ σ) (get : Get) (r : Reading) (again : Bool) (h : HolderId) :
    Prop where
  /-- The request stays the same. -/
  request : r.get = get
  /-- What is left to answer was asked for. -/
  rest : r.rest ⊆ get.queries
  /-- The holder was not closed when the request began. -/
  holder : Candidate g₀ g get.endpoint h
  /-- The holder that has been met closed is another one, and was not closed then either. -/
  before : again = true → ∃ h', h' ≠ h ∧ Candidate g₀ g get.endpoint h' ∧ g.link h' = .closed

theorem Asking.mono (hk : Asking g₀ g get r again h) (hg : g.Ages g') :
    Asking g₀ g' get r again h where
  request := hk.request
  rest := hk.rest
  holder := hk.holder.mono hg
  before ha := by
    obtain ⟨h', hne, hc, hclosed⟩ := hk.before ha
    exact ⟨h', hne, hc.mono hg, hg.closed hclosed⟩

/-- An access has failed because its holder is closed, in a way that is accounted for, or in one
that concerns a single attribute. -/
def Failure (g : Gateway ρ σ) (url : String) (E : String → Prop) (h : HolderId) (f : Fault) :
    Prop :=
  f = .holderClosed url ∧ g.link h = .closed ∨
    f.isHolderClosed = false ∧ (f.itemLevel = false → E f.detail)

theorem Failure.mono (hf : Failure g url E h f) (hg : g.Ages g') (hE : ∀ d, E d → E' d) :
    Failure g' url E' h f :=
  hf.imp (fun hc => ⟨hc.1, hg.closed hc.2⟩) fun ht => ⟨ht.1, fun hi => hE _ (ht.2 hi)⟩

/-- How far a request for attributes has come: it goes on with its holders, gives up with an error
that is accounted for, or has answered. -/
inductive Phase (g₀ g : Gateway ρ σ) (get : Get) (E : String → Prop) : Activity τ σ → Prop where
  /-- The line has not been read. -/
  | beginning {line : String} (hp : Command.parse line = .ok (.get get)) :
    Phase g₀ g get E (.beginning (.answer line))
  /-- A holder is accessed. -/
  | requesting {p : Purpose} {r : Reading} {again : Bool} {a : Access τ σ} (hp : p.Asks r again)
      (ha : a.aim ≠ .close) (hk : Asking g₀ g get r again a.holder) :
    Phase g₀ g get E (.requesting p a)
  /-- A holder has been accessed. -/
  | returning {p : Purpose} {r : Reading} {again : Bool} {h : HolderId} {o : Outcome}
      (hp : p.Asks r again) (hk : Asking g₀ g get r again h)
      (hf : ∀ f, o = .failed f → Failure g get.endpoint E h f) :
    Phase g₀ g get E (.returning p h o)
  /-- The holder is being closed. -/
  | givingUp {f : Fault} {a : Access τ σ} (he : E f.detail) :
    Phase g₀ g get E (.requesting (.givingUp f) a)
  /-- The holder has been closed. -/
  | gaveUp {f : Fault} {h : HolderId} {o : Outcome} (he : E f.detail) :
    Phase g₀ g get E (.returning (.givingUp f) h o)
  /-- The attributes have been answered. -/
  | answered {lines : List String} : Phase g₀ g get E (.finished (.answered (.ok lines)))
  /-- An error has been answered. -/
  | failed {code : ErrorCode} {detail : String} (he : E detail) :
    Phase g₀ g get E (.finished (.answered (.err code detail)))

theorem Phase.mono (hp : Phase g₀ g get E act) (hg : g.Ages g') (hE : ∀ d, E d → E' d) :
    Phase g₀ g' get E' act := by
  cases hp with
  | beginning hp => exact .beginning hp
  | requesting hp ha hk => exact .requesting hp ha (hk.mono hg)
  | returning hp hk hf => exact .returning hp (hk.mono hg) fun f ho => (hf f ho).mono hg hE
  | givingUp he => exact .givingUp (hE _ he)
  | gaveUp he => exact .gaveUp (hE _ he)
  | answered => exact .answered
  | failed he => exact .failed (hE _ he)

/-- **A step of its access** leaves a request in one of these phases. -/
theorem Phase.onward [Remote ρ τ σ] (hp : Phase g₀ g get E act) (ha : act.access? = some a)
    {g₁ : Gateway ρ σ} {n : Access.Next τ σ} (hstep : a.Step id g g₁ n) (hg : g.Ages g')
    (hE : ∀ d, E d → E' d)
    (hf : ∀ f, n = .inr (.failed f) → Failure g' (g.endpoint a.holder) E' a.holder f) :
    Phase g₀ g' get E' (act.onward n) := by
  cases hp with
  | requesting hp haim hk =>
    cases ha
    cases n with
    | inl b =>
      obtain ⟨hh, hb⟩ := hstep.same
      refine .requesting hp (by rwa [hb]) ?_
      rw [hh]
      exact hk.mono hg
    | inr o =>
      refine .returning hp (hk.mono hg) fun f ho => ?_
      rw [← hk.holder.endpoint]
      exact hf f (by rw [ho])
  | givingUp he =>
    cases n with
    | inl b => exact .givingUp (hE _ he)
    | inr o => exact .gaveUp (hE _ he)
  | _ => cases ha

/-! ### Steps between accesses -/

/-- The path of a query leads through a value or concerns that query only. -/
theorem itemLevel_of_select {v : Value} (h : select r v = .error f) : f.itemLevel = true := by
  rw [select] at h
  split at h
  · exact Value.itemLevel_of_resolve h
  · cases h

/-- A request that goes on with its queries goes on with the same holder. -/
theorem Turn.phase {failed : Fault → Prop} (ht : Turn h r inside failed g next)
    (hk : Asking g₀ g get r again h) (ha : inside = true → again = true)
    (hfailed : ∀ f, failed f → f.itemLevel = false → E f.detail)
    (hline : Command.parse line = .ok (.get get)) :
    Phase g₀ next.1 get E next.2 := by
  cases ht with
  | done => exact .answered
  | fetch hc r' again' bean attributeName hget hrest hin =>
    have hk' := hk.mono hc.evolves.ages
    exact .requesting (.fetching r' again') nofun
      ⟨hget.trans hk.request, List.Subset.trans hrest hk.rest, hk'.holder,
        fun h => hk'.before (ha (hin h))⟩
  | giveUp hc f hi hf =>
    rcases hf with hf | ⟨q, hmem, hpath⟩
    · exact .givingUp (hfailed f hf hi)
    · rw [Command.itemLevel_of_query hline (hk.rest hmem) hpath] at hi
      cases hi

/-- A holder that is looked up was not closed when the request began. -/
theorem candidate_acquire (hoff : g₀.Offers (g.acquire url).2) :
    Candidate g₀ (g.acquire url).2 url (g.acquire url).1 := by
  have hcached := Gateway.cached?_acquire g url
  obtain ⟨hmade, hend⟩ := hoff.keyed _ _ hcached
  exact ⟨hmade, hend, fun hclosed => hoff.live hcached (hoff.closed hclosed)⟩

/-- A request that looks its endpoint up gets another holder than the closed one that it has met. -/
theorem phase_connect (hget : r.get = get) (hrest : r.rest ⊆ get.queries)
    (hbefore : (inside || again) = true →
      ∃ h, Candidate g₀ g get.endpoint h ∧ g.link h = .closed)
    (hoff : g₀.Offers (connect (τ := τ) r inside again g).1) :
    Phase (τ := τ) g₀ (connect (τ := τ) r inside again g).1 get E
      (connect (τ := τ) r inside again g).2 := by
  subst hget
  have hages := (g.evolves_acquire r.get.endpoint).ages
  refine .requesting (.connecting r inside again) nofun
    ⟨rfl, hrest, candidate_acquire hoff, fun ha => ?_⟩
  obtain ⟨h, hc, hclosed⟩ := hbefore ha
  refine ⟨h, ?_, hc.mono hages, hages.closed hclosed⟩
  rintro rfl
  exact hoff.live (Gateway.cached?_acquire g r.get.endpoint) (hages.closed hclosed)

/-- What a request does behind an access to a holder leaves it in one of these phases. -/
theorem Resumed.phase (hr : Resumed h g p o next) (hp : p.Asks r again)
    (haim : Aimed (.returning p h o : Activity τ σ)) (hk : Asking g₀ g get r again h)
    (hf : ∀ f, o = .failed f → Failure g get.endpoint E h f) (hoff : g₀.Offers next.1)
    (hline : Command.parse line = .ok (.get get))
    (hE : ∀ h', h' ≠ h → Candidate g₀ g get.endpoint h' → Candidate g₀ g get.endpoint h →
      g.link h' = .closed → g.link h = .closed → E (Fault.holderClosed get.endpoint).detail) :
    Phase g₀ next.1 get E next.2 := by
  -- An access that has met a closed holder has met this one.
  have hclosed : ∀ f, o = .failed f → f.isHolderClosed → g.link h = .closed := by
    intro f ho hcl
    rcases hf f ho with ⟨-, hc⟩ | ⟨hn, -⟩
    · exact hc
    · rw [hcl] at hn
      cases hn
  have hfailed : ∀ f, o = .failed f → f.itemLevel = false → (f.isHolderClosed → again = true) →
      E f.detail := by
    intro f ho hi ha
    rcases hf f ho with ⟨rfl, hc⟩ | ⟨-, he⟩
    · obtain ⟨h', hne, hcand, hc'⟩ := hk.before (ha rfl)
      exact hE h' hne hcand hk.holder hc' hc
    · exact he hi
  cases hr with
  | reconnect hcl =>
    cases hp
    exact phase_connect hk.request hk.rest (fun _ => ⟨h, hk.holder, hclosed _ rfl hcl⟩) hoff
  | @refuse r inside again' f hcl =>
    cases hp
    have hi : f.itemLevel = false := Fault.itemLevel_of_code haim
    exact .failed (hfailed f rfl hi fun h => by rw [hcl h, Bool.or_true])
  | goOn ho ht =>
    cases hp
    exact ht.phase hk (fun h => by rw [h, Bool.true_or]) (fun _ h => h.elim) hline
  | refresh hcl =>
    cases hp
    exact phase_connect hk.request hk.rest (fun _ => ⟨h, hk.holder, hclosed _ rfl hcl⟩) hoff
  | settle ha ht =>
    cases hp
    refine ht.phase hk nofun ?_ hline
    rintro f (ho | ⟨v, -, hsel⟩) hi
    · exact hfailed f ho hi (ha f ho)
    · rw [itemLevel_of_select hsel] at hi
      cases hi
  | gaveUp | dropped => cases hp

/-- A request for attributes begins by having a holder connected. -/
theorem Quiet.of_get [Remote ρ τ σ] (hs : Quiet id g (.beginning (.answer line)) next)
    (hp : Command.parse line = .ok (.get get)) :
    ∃ g₁, g.Counts g₁ ∧ next = connect ⟨get, [], get.queries⟩ false false g₁ := by
  cases hs with
  | get hp' hc =>
    rw [hp] at hp'
    cases hp'
    exact ⟨_, hc, rfl⟩
  | misread hp' | drop hp' | dropNone hp' =>
    rw [hp] at hp'
    cases hp'
  | clear ha | skip ha => rcases ha with ha | ⟨ha, -⟩ <;> cases ha

theorem Quiet.resumed [Remote ρ τ σ] (hs : Quiet id g (.returning p h o) next) :
    Resumed h g p o next := by
  cases hs with
  | resume hr => exact hr
  | clear ha | skip ha => rcases ha with ha | ⟨ha, -⟩ <;> cases ha

/-- **A step without an access** leaves a request in one of these phases. -/
theorem Phase.quiet [Remote ρ τ σ] (hp : Phase g₀ g get E act) (haim : act.Aimed)
    (hs : Quiet id g act next) (hoff : g₀.Offers next.1)
    (hE : ¬ act.Spent g get.endpoint → ∀ h h', h' ≠ h → Candidate g₀ g get.endpoint h' →
      Candidate g₀ g get.endpoint h → g.link h' = .closed → g.link h = .closed →
        E (Fault.holderClosed get.endpoint).detail)
    (hline : Command.parse line = .ok (.get get)) :
    Phase g₀ next.1 get E next.2 := by
  cases hp with
  | beginning hp =>
    obtain ⟨g₁, -, rfl⟩ := hs.of_get hp
    exact phase_connect rfl (List.Subset.refl _) nofun hoff
  | @returning p r again h o hp hk hf =>
    have hspent : ¬ Spent g get.endpoint (.returning p h o : Activity τ σ) := by
      -- A request that still asks for attributes has closed nothing.
      cases hp <;> exact not_false
    exact hs.resumed.phase hp haim hk hf hoff hline (hE hspent h)
  | gaveUp he =>
    cases hs.resumed with
    | gaveUp => exact .failed he
  | _ =>
    cases hs with
    | clear ha | skip ha => rcases ha with ha | ⟨ha, -⟩ <;> cases ha

end Activity

namespace System

variable [Remote ρ τ σ] {s₀ s s' : System ρ τ σ} {h h' : HolderId} {url line detail : String}
  {id : TaskId} {e : Event ρ σ} {es es₀ : List (Event ρ σ)} {get : Get}

/-! ### What happens meanwhile -/

/-- A task has closed a holder of an endpoint. -/
def ClosedOf (s₀ : System ρ τ σ) (es : List (Event ρ σ)) (s : System ρ τ σ) (url : String)
    (h : HolderId) (j : TaskId) : Prop :=
  s.gateway.Made h ∧ s.gateway.endpoint h = url ∧ ClosedBy s₀ es h j

/-- Two holders of an endpoint have been closed, by two tasks other than a given one. -/
def TwoClosed (s₀ : System ρ τ σ) (es : List (Event ρ σ)) (s : System ρ τ σ) (id : TaskId)
    (url : String) : Prop :=
  ∃ h₁ h₂ j₁ j₂, h₁ ≠ h₂ ∧ j₁ ≠ j₂ ∧ j₁ ≠ id ∧ j₂ ≠ id ∧
    ClosedOf s₀ es s url h₁ j₁ ∧ ClosedOf s₀ es s url h₂ j₂

/-- The remote side has reported to a task an error with a text that ends the task's request. -/
def Reported (s₀ : System ρ τ σ) (es : List (Event ρ σ)) (id : TaskId) (detail : String) : Prop :=
  ∃ u u' a error, Occurs s₀ es u (.advance id) u' ∧ u.access? id = some a ∧
    a.Told u.gateway error ∧ error.message = detail

/-- What an error that a request answers comes from. -/
def Explained (s₀ : System ρ τ σ) (es : List (Event ρ σ)) (s : System ρ τ σ) (id : TaskId)
    (url detail : String) : Prop :=
  detail = (Fault.holderClosed url).message ∧ TwoClosed s₀ es s id url ∨
    Reported s₀ es id detail

theorem ClosedOf.snoc {j : TaskId} (hc : ClosedOf s₀ es s url h j) (hr : Run s₀ es s)
    (he : s.after? e = some s') : ClosedOf s₀ (es ++ [e]) s' url h j := by
  obtain ⟨hm, hend, hc⟩ := hc
  have hg := grows_of_after? he
  exact ⟨hg.made hm, (hg.endpoint hm).trans hend, (closedBy_snoc hr he).2 (.inl hc)⟩

theorem Explained.snoc (hx : Explained s₀ es s id url detail) (hr : Run s₀ es s)
    (he : s.after? e = some s') : Explained s₀ (es ++ [e]) s' id url detail := by
  rcases hx with ⟨hd, h₁, h₂, j₁, j₂, hh, hj, hj₁, hj₂, hc₁, hc₂⟩ | ⟨u, u', a, error, ho, hrest⟩
  · exact .inl ⟨hd, h₁, h₂, j₁, j₂, hh, hj, hj₁, hj₂, hc₁.snoc hr he, hc₂.snoc hr he⟩
  · exact .inr ⟨u, u', a, error, (occurs_snoc hr he).2 (.inl ho), hrest⟩

/-- Two holders of one endpoint that have been closed have been closed by two tasks, and not by one
that still may close a holder of that endpoint. -/
theorem Accounted.twoClosed (ha : Accounted s₀ es s) (hr : Run s₀ es s) {t : Task τ σ}
    (ht : s.task? id = some t) (hspent : ¬ t.activity.Spent s.gateway url) (hne : h' ≠ h)
    (hc' : Activity.Candidate s₀.gateway s.gateway url h')
    (hc : Activity.Candidate s₀.gateway s.gateway url h)
    (hk' : s.gateway.link h' = .closed) (hk : s.gateway.link h = .closed) :
    TwoClosed s₀ es s id url := by
  obtain ⟨j', hj'⟩ := exists_closedBy hr hc'.live hk'
  obtain ⟨j, hj⟩ := exists_closedBy hr hc.live hk
  have hother {h j} (hc : Activity.Candidate s₀.gateway s.gateway url h)
      (hj : ClosedBy s₀ es h j) : j ≠ id := by
    rintro rfl
    have hs := (ha.spent hj).2.2 t ht
    rw [hc.endpoint] at hs
    exact hspent hs
  refine ⟨h', h, j', j, hne, ?_, hother hc' hj', hother hc hj, ⟨hc'.made, hc'.endpoint, hj'⟩,
    ⟨hc.made, hc.endpoint, hj⟩⟩
  rintro rfl
  exact hne (ha.once hj' hj (hc'.endpoint.trans hc.endpoint.symm))

/-! ### Requests in a run -/

/-- A task is answering a request for attributes. -/
def Engaged (s₀ : System ρ τ σ) (es : List (Event ρ σ)) (s : System ρ τ σ) (id : TaskId)
    (get : Get) : Prop :=
  id < s.tasks.length ∧ ∀ t, s.task? id = some t →
    t.activity.Phase s₀.gateway s.gateway get (Explained s₀ es s id get.endpoint) ∧
      t.activity.Aimed

/-- An access that fails has met a closed holder, or the remote side has just reported an error; if
none that ends the request, one about the attribute. -/
theorem Disciplined.failure (hd : Disciplined s) (hr : Run s₀ es s) {t : Task τ σ}
    (ht : s.task? id = some t) {a : Access τ σ} (ha : t.activity.access? = some a)
    {g : Gateway ρ σ} {f : Fault} (hstep : a.Step id s.gateway g (.inr (.failed f)))
    (he : s.after? (.advance id) = some s') :
    Activity.Failure s'.gateway (s.gateway.endpoint a.holder)
      (Explained s₀ (es ++ [.advance id]) s' id url) a.holder f := by
  have haccess : s.access? id = some a := (access?_of_task? ht).trans ha
  rcases hstep.failed with ⟨rfl, hk⟩ | ⟨hcl, htold⟩ | ⟨reason, rfl⟩
  · exact .inl ⟨rfl, hd.closed_after? he hk⟩
  · refine .inr ⟨hcl, fun hi => .inr ?_⟩
    obtain ⟨error, htold, hdetail⟩ := htold hi
    exact ⟨s, s', a, error, (occurs_snoc hr he).2 (.inr ⟨rfl, rfl, rfl⟩), haccess, htold,
      hdetail.symm⟩
  · exact absurd rfl (hd.outcome_ne haccess hstep reason)

/-- **Every event** leaves a request in one of its phases. -/
theorem Engaged.after? (hen : Engaged s₀ es s id get) (hp : Command.parse line = .ok (.get get))
    {remote : ρ} {workers : Permits} (hr₀ : RunWhere Proper (start remote workers) es₀ s₀)
    (hr : RunWhere Proper s₀ es s) (hP : Proper s e) (he : s.after? e = some s') :
    Engaged s₀ (es ++ [e]) s' id get := by
  have hrun := hr₀.trans hr
  have hs' := (current_of_run hrun).after? hP he
  have hd₀ := disciplined_of_run hr₀.run
  have hd := disciplined_of_run hrun.run
  have hages : s.gateway.Ages s'.gateway := ⟨grows_of_after? he, fun hk => hd.closed_after? he hk⟩
  have hE : ∀ d, Explained s₀ es s id get.endpoint d →
      Explained s₀ (es ++ [e]) s' id get.endpoint d := fun d hx => hx.snoc hr.run he
  refine ⟨Nat.lt_of_lt_of_le hen.1 (length_tasks_le he), fun t' ht' => ?_⟩
  rcases task?_cases he ht' with hsame | ⟨t, rfl, ht, hstep⟩ | ⟨op, -, -, hid⟩
  · obtain ⟨hphase, haim⟩ := hen.2 t' hsame
    exact ⟨hphase.mono hages hE, haim⟩
  · obtain ⟨hphase, haim⟩ := hen.2 t ht
    rcases Task.step_cases hstep with ⟨line, hline, -⟩ | ⟨g₁, hact, hw⟩
    · rw [hline] at hphase
      cases hphase
    · refine ⟨?_, haim.step hact⟩
      cases ha : t.activity.access? with
      | some a =>
        obtain ⟨n, hn, hon⟩ := Activity.step_access ha hact
        rw [hon]
        refine hphase.onward ha hn hages hE fun f hf => ?_
        rw [hf] at hn
        exact hd.failure hr.run ht ha hn he
      | none =>
        have hoff : s₀.gateway.Offers g₁ := by
          have hoff : s₀.gateway.Offers s'.gateway := ⟨hs'.keyed, hs'.live,
            fun hk => hd.closed_after? he (hd₀.closed_of_run hr.run hk)⟩
          rw [hw] at hoff
          exact ⟨hoff.keyed, hoff.live, hoff.closed⟩
        have hages₁ : g₁.Ages s'.gateway := by
          rw [hw]
          exact (g₁.evolves_workers _).ages
        refine (hphase.quiet haim (Activity.quiet_of_step ha hact) hoff ?_ hp).mono hages₁ hE
        intro hspent h h' hne hc' hc hk' hk
        exact .inl ⟨rfl, (accounted_of_run hr₀ hr).twoClosed hr.run ht hspent hne hc' hc hk' hk⟩
  · exact absurd hid (Nat.ne_of_lt hen.1)

theorem engaged_of_run {remote : ρ} {workers : Permits}
    (hr₀ : RunWhere Proper (start remote workers) es₀ s₀) {t : Task τ σ}
    (ht : s₀.task? id = some t) (hline : t.activity = .beginning (.answer line))
    (hp : Command.parse line = .ok (.get get)) (hr : RunWhere Proper s₀ es s) :
    Engaged s₀ es s id get := by
  induction hr with
  | nil =>
    refine ⟨lt_of_task? ht, fun t' ht' => ?_⟩
    rw [ht] at ht'
    cases ht'
    rw [hline]
    exact ⟨.beginning hp, trivial⟩
  | snoc hr hP he ih => exact ih.after? hp hr₀ hr hP he

/-- **A request fails because its holder is closed only if two were**, in every run in which holders
are closed by way of the cache: whatever error a request for attributes answers, the remote side has
reported to it since it began an error with that text that ends it, or the text says that a holder
has been closed and two holders of its endpoint have been closed since it began, by two other tasks.
So one request to drop the connection, or one other request that gives up, never makes it fail. -/
theorem explained_error {remote : ρ} {workers : Permits}
    (hr₀ : RunWhere Proper (start remote workers) es₀ s₀) {t : Task τ σ}
    (ht : s₀.task? id = some t) (hline : t.activity = .beginning (.answer line))
    (hp : Command.parse line = .ok (.get get)) (hr : RunWhere Proper s₀ es s) {code : ErrorCode}
    (hres : s.result? id = some (.answered (.err code detail))) :
    detail = (Fault.holderClosed get.endpoint).message ∧ TwoClosed s₀ es s id get.endpoint ∨
      Reported s₀ es id detail := by
  have hen := engaged_of_run hr₀ ht hline hp hr
  obtain ⟨t', ht', hact⟩ := Option.bind_eq_some_iff.1 hres
  obtain ⟨hphase, -⟩ := hen.2 t' ht'
  cases hact' : t'.activity with
  | finished r =>
    rw [hact'] at hact hphase
    cases hact
    cases hphase with
    | failed he => exact he
  | _ =>
    rw [hact'] at hact
    cases hact

/-- A request that only has to answer behind an access answers in its next step. -/
theorem answers_of_resume {t : Task τ σ} {p : Purpose} {o : Outcome} {r : Response}
    (ht : s.task? id = some t) (hact : t.activity = .returning p h o)
    (hresume : Activity.resume (τ := τ) p h o s.gateway = Activity.answer r s.gateway) :
    ∃ s', s.after? (.advance id) = some s' ∧ s'.result? id = some (.answered r) ∧
      s'.gateway.holders = s.gateway.holders ∧
      s'.gateway.metrics = (Activity.answer (τ := τ) r s.gateway).1.metrics ∧
      ∀ k, k ≠ id → s'.task? k = s.task? k := by
  obtain ⟨g, t', hstep, ht', hg, hm⟩ : ∃ g t', t.step id s.gateway = some (g, t') ∧
      t'.activity = .finished (.answered r) ∧ g.holders = s.gateway.holders ∧
      g.metrics = (Activity.answer (τ := τ) r s.gateway).1.metrics := by
    simp only [Task.step, hact, Activity.step, hresume, Activity.answer, Option.map_some,
      Task.settle]
    split <;> exact ⟨_, _, rfl, rfl, rfl, rfl⟩
  have hs : s.after? (.advance id) = some { gateway := g, tasks := s.tasks.set id (some t') } := by
    simp only [after?, advance?, ht, hstep, Option.bind_eq_bind, Option.bind_some]
    rfl
  refine ⟨_, hs, ?_, hg, hm, fun k hk => (task?_of_set ht rfl k).trans (if_neg hk)⟩
  rw [result?, task?_of_set ht rfl, if_pos rfl, Option.bind_some, ht']
  rfl

/-- A request for an attribute, and two requests to drop the connection. -/
def asked : List (Event Registry Nat) :=
  [.alter (·.register "u"), .begin (.answer "GET u %s b a"), .begin (.answer "CLOSE u"),
    .begin (.answer "CLOSE u")]

/-- Twice the request gets a holder, and each time the connection is dropped before it is used. -/
def droppedTwice : List (Event Registry Nat) :=
  [0, 1, 1, 1, 1, 0, 0, 0, 2, 2, 2, 2, 0, 0].map .advance

/-- The request of `asked`. -/
def askedGet : Get := ⟨"u", .ofToken "%s", [.ofTexts "b" "a"]⟩

/-- The task of the request when it has met the second closed holder. -/
def metTwice : Task Registry.Found Nat :=
  { activity := .returning (.connecting ⟨askedGet, [], askedGet.queries⟩ false true) 1
      (.failed (.holderClosed "u")) }

theorem explained_error_droppedTwice :
    ∃ s, ((inMemory.behind asked).behind droppedTwice).after? (.advance 0) = some s ∧
      s.result? 0 = some (.answered (.err .connectionFailed (Fault.holderClosed "u").message)) ∧
      (TwoClosed (inMemory.behind asked) (droppedTwice ++ [.advance 0]) s 0 "u" ∨
        Reported (inMemory.behind asked) (droppedTwice ++ [.advance 0]) 0
          (Fault.holderClosed "u").message) := by
  have hr₀ : Run inMemory asked (inMemory.behind asked) := run_behind (by decide +kernel)
  have hr : Run (inMemory.behind asked) droppedTwice
      ((inMemory.behind asked).behind droppedTwice) := run_behind (by decide +kernel)
  have hmet : ((inMemory.behind asked).behind droppedTwice).task? 0 = some metTwice := by
    with_unfolding_all rfl
  obtain ⟨s, hs, hres, -⟩ := answers_of_resume hmet rfl rfl
  refine ⟨s, hs, hres, ?_⟩
  have hbegun : (inMemory.behind asked).task? 0 =
      some (.ofOperation (.answer "GET u %s b a")) := by with_unfolding_all rfl
  have hparse : Command.parse "GET u %s b a" = .ok (.get askedGet) := by with_unfolding_all rfl
  rcases explained_error (hr₀.proper rfl) hbegun rfl hparse (Run.proper (.snoc hr hs) rfl) hres
    with ⟨-, htwo⟩ | hrep
  · exact .inl htwo
  · exact .inr hrep

/-- The endpoint reports that its channel has failed, in the words in which a gateway tells that a
holder has been closed; the request closes its holder. -/
def echoed : List (Event Registry Nat) :=
  [.alter fun r => (r.register "u").modify "u"
      (·.injectFault "b" "a" (.channel "Connection holder for 'u' has been closed")),
    .begin (.answer "GET u %s b a")] ++ List.replicate 16 (.advance 0)

/-- The task of the request when it has closed its holder. -/
def metEcho : Task Registry.Found Nat :=
  { activity := .returning
      (.givingUp (.remoteChannel "Connection holder for 'u' has been closed")) 0 .closed }

/-- The error may have the words of a closed holder although no two holders were ever closed. -/
theorem echoed_without_two_closings :
    ∃ s, RunWhere Proper inMemory (echoed ++ [.advance 0]) s ∧
      s.result? 0 = some (.answered (.err .channelError (Fault.holderClosed "u").message)) ∧
      ¬ ∃ h₁ h₂, h₁ ≠ h₂ ∧ s.gateway.link h₁ = .closed ∧ s.gateway.link h₂ = .closed := by
  have hr : Run inMemory echoed (inMemory.behind echoed) := run_behind (by decide +kernel)
  have hmet : (inMemory.behind echoed).task? 0 = some metEcho := by with_unfolding_all rfl
  obtain ⟨s, hs, hres, hholders, -⟩ := answers_of_resume hmet rfl rfl
  refine ⟨s, Run.proper (.snoc hr hs) rfl, hres, ?_⟩
  have hlen : s.gateway.holders.length = 1 := by
    rw [hholders]
    decide +kernel
  have honly : ∀ h, s.gateway.link h = .closed → h = 0 := by
    intro h hk
    by_contra hne
    have hnot : ¬ s.gateway.Made h := by
      rw [Gateway.Made, hlen]
      exact fun hlt => hne (Nat.lt_one_iff.1 hlt)
    rw [Gateway.link_of_not_made hnot] at hk
    cases hk
  rintro ⟨h₁, h₂, hne, hk₁, hk₂⟩
  exact hne ((honly h₁ hk₁).trans (honly h₂ hk₂).symm)

end System

end AttributeGateway
