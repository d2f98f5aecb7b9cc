import AttributeGateway.Proofs.Gateway.Runs
import AttributeGateway.Proofs.Request.Shape

/-!
# The answers of requests

Whatever other tasks do meanwhile, and whatever the remote side does, a request is answered as its
client may expect. A line that is no request is refused with the first step, which leaves holders,
cache and remote side as they are. A request to read attributes keeps count: every query gets one
line, at whichever of its ends it is answered, so there are as many lines as pairs; and an access
fails for reasons that are told under one of two codes.

* `Access.Step.failed_code` — how the failure of an access is told.
* `Activity.Answering` — a task that answers a line on its way; `Activity.Answering.step` says that
  its steps keep it.
* `System.answers_documented` — in every run, every answer is one that the client may expect, so the
  client can cut the stream of answers to its requests.
-/

namespace AttributeGateway

variable {ρ τ σ : Type} {words : List String} {n : Nat}

/-- A fault that a client is told of as a failing connection or channel. -/
def Fault.OfConnection (f : Fault) : Prop :=
  f.code = .connectionFailed ∨ f.code = .channelError

/-- An access fails only in ways that concern the connection or the channel. -/
theorem Access.Step.failed_code [Remote ρ τ σ] {id : TaskId} {a : Access τ σ}
    {g g' : Gateway ρ σ} {f : Fault} (h : a.Step id g g' (.inr (.failed f))) : f.OfConnection := by
  generalize hn : (Sum.inr (.failed f) : Next τ σ) = n at h
  cases h with
  | refuse | miss | fail =>
    cases hn
    exact .inl rfl
  | lose =>
    cases hn
    exact .inr rfl
  | read =>
    rw [readOutcome] at hn
    split at hn
    · cases hn
    · next error _ =>
      cases hn
      cases error with
      | connect reason => exact .inl rfl
      | unreadable reason | channel reason => exact .inr rfl
  | _ => cases hn

/-- What a request with these words accesses a holder for; `n` counts the queries of a request to
read attributes, answered or not. -/
inductive Purpose.Serves (words : List String) : Purpose → Prop where
  /-- A holder is to be connected. -/
  | connecting {r : Reading} {inside again : Bool}
      (h : AsksFor (r.lines.length + r.rest.length) words) :
    Serves words (.connecting r inside again)
  /-- An attribute is to be read. -/
  | fetching {r : Reading} {again : Bool} (h : AsksFor (r.lines.length + r.rest.length) words)
      (hrest : r.rest ≠ []) :
    Serves words (.fetching r again)
  /-- The holder whose channel has failed is to be closed. -/
  | givingUp {f : Fault} {n : Nat} (h : AsksFor n words) : Serves words (.givingUp f)
  /-- The connection is to be dropped. -/
  | dropping {url : String} (h : words = ["CLOSE", url]) : Serves words .dropping

namespace Activity

/-- A task that answers a line with these words, on its way. -/
inductive Answering (words : List String) : Activity τ σ → Prop where
  /-- The line is about to be taken up. -/
  | beginning {line : String} (h : Text.wordsOf line = words) :
    Answering words (.beginning (.answer line))
  /-- A holder is being accessed. -/
  | requesting {p : Purpose} {a : Access τ σ} (hp : p.Serves words) :
    Answering words (.requesting p a)
  /-- A holder has been accessed. -/
  | returning {p : Purpose} {h : HolderId} {o : Outcome} (hp : p.Serves words)
      (ho : ∀ f, o = .failed f → f.OfConnection) :
    Answering words (.returning p h o)
  /-- The line has been answered as the client may expect. -/
  | answered {r : Response} (hr : Documented words r) : Answering words (.finished (.answered r))

variable {g : Gateway ρ σ} {h : HolderId} {r : Reading} {inside again : Bool}

/-! ### What a request does next -/

theorem answering_connect (hasks : AsksFor (r.lines.length + r.rest.length) words) :
    Answering (τ := τ) words (connect r inside again g).2 := .requesting (.connecting hasks)

theorem answering_giveUp {f : Fault} (hasks : AsksFor n words) :
    Answering (τ := τ) words (giveUp h f g).2 := .requesting (.givingUp hasks)

/-- Every query gets one line on the way to the next attribute. -/
theorem answering_proceed {get : Get} {lines : List String} {rest : List Query}
    (hasks : AsksFor (lines.length + rest.length) words) :
    Answering (τ := τ) words (proceed h get lines rest g).2 := by
  induction rest generalizing lines g with
  | nil => exact .answered (.inr (.values hasks))
  | cons q queries ih =>
    rw [proceed]
    split
    · exact .requesting (.fetching hasks (List.cons_ne_nil _ _))
    · split
      · apply ih
        rwa [List.length_append, Nat.add_assoc, List.length_singleton, Nat.add_comm 1]
      · exact answering_giveUp hasks

/-- The first query gets one line, whatever could be read of it. -/
theorem answering_settle {found : Except Fault Value}
    (hasks : AsksFor (r.lines.length + r.rest.length) words) (hrest : r.rest ≠ []) :
    Answering (τ := τ) words (settle h r found g).2 := by
  have hnext (line : String) (g : Gateway ρ σ) :
      Answering (τ := τ) words (proceed h r.get (r.lines ++ [line]) r.rest.tail g).2 := by
    apply answering_proceed
    have hpos := List.length_pos_iff.2 hrest
    have hcount : (r.lines ++ [line]).length + r.rest.tail.length =
        r.lines.length + r.rest.length := by
      rw [List.length_append, List.length_singleton, List.length_tail]
      omega
    rwa [hcount]
  unfold settle
  split
  · split <;> exact hnext _ _
  · split
    · exact hnext _ _
    · exact answering_giveUp hasks

theorem answering_fetchAgain (hasks : AsksFor (r.lines.length + r.rest.length) words) :
    Answering (τ := τ) words (fetchAgain h r g).2 := by
  rw [fetchAgain]
  split
  · next hhead =>
    refine .requesting (.fetching hasks fun hnil => ?_)
    rw [hnil] at hhead
    cases hhead
  · exact answering_proceed hasks

/-- Behind an access a request answers, or goes on with its queries. -/
theorem answering_resume {p : Purpose} {o : Outcome} (hp : p.Serves words)
    (ho : ∀ f, o = .failed f → f.OfConnection) :
    Answering (τ := τ) words (resume p h o g).2 := by
  cases hp with
  | connecting hasks =>
    cases o with
    | failed f =>
      simp only [resume]
      split
      · exact answering_connect hasks
      · exact .answered (.inr (.failed hasks (ho f rfl) _))
    | connected | fetched | closed =>
      simp only [resume]
      split
      · exact answering_fetchAgain hasks
      · exact answering_proceed hasks
  | fetching hasks hrest =>
    cases o with
    | failed f =>
      simp only [resume]
      split
      · exact answering_connect hasks
      · exact answering_settle hasks hrest
    | connected | fetched | closed => exact answering_settle hasks hrest
  | givingUp hasks => exact .answered (.inr (.failed hasks (.inr rfl) _))
  | dropping hwords => exact .answered (.inr (.closed hwords))

/-! ### Steps -/

/-- A line that is no request is answered at once, which only counts. -/
theorem beginLine_of_error {line : String} {f : Fault} (hp : Command.parse line = .error f) :
    (beginLine (τ := τ) line g).2 = .finished (.answered (.ofFault f)) ∧
      g.Counts (beginLine (τ := τ) line g).1 := by
  simp only [beginLine, hp]
  exact ⟨trivial, rfl, rfl, rfl⟩

theorem answering_beginLine (line : String) :
    Answering (τ := τ) (Text.wordsOf line) (beginLine line g).2 := by
  simp only [beginLine]
  split
  · next f hp => exact .answered (.inl (Command.refusal_of_ofWords hp))
  · next get hp =>
    refine answering_connect ?_
    simpa using Command.asksFor_of_get hp
  · next url hp =>
    have hwords := Command.words_of_close hp
    split
    · exact .requesting (.dropping hwords)
    · exact .answered (.inr (.closed hwords))

/-- **The steps of a task that answers a line keep it on its way.** -/
theorem Answering.step [Remote ρ τ σ] {id : TaskId} {act act' : Activity τ σ} {g' : Gateway ρ σ}
    (ha : act.Answering words) (hs : act.step id g = some (g', act')) : act'.Answering words := by
  cases ha with
  | @beginning line hwords =>
    subst hwords
    obtain rfl : (beginLine line g).2 = act' := congrArg Prod.snd (Option.some.inj hs)
    exact answering_beginLine line
  | @requesting p a hp =>
    obtain ⟨n, hn, rfl⟩ := step_access rfl hs
    cases n with
    | inl a' => exact .requesting hp
    | inr o => exact .returning hp fun f hf => (hf ▸ hn).failed_code
  | @returning p h o hp ho =>
    obtain rfl : (resume p h o g).2 = act' := congrArg Prod.snd (Option.some.inj hs)
    exact answering_resume hp ho
  | answered hr => cases hs

end Activity

/-! ### Tasks -/

namespace Task

variable {id : TaskId} {t : Task τ σ} {g : Gateway ρ σ}

/-- Giving the permit back leaves the activity as it is. -/
@[simp] theorem activity_settle (id : TaskId) (t : Task τ σ) (g : Gateway ρ σ) :
    (settle id t g).2.activity = t.activity := by
  rw [settle]
  split <;> rfl

theorem counts_settle (id : TaskId) (t : Task τ σ) (g : Gateway ρ σ) :
    g.Counts (settle id t g).1 := by
  rw [settle]
  split <;> exact ⟨rfl, rfl, rfl⟩

/-- A task that is to answer a line that is no request answers it at once, and only counts. -/
theorem step_of_error [Remote ρ τ σ] (id : TaskId) (g : Gateway ρ σ) {line : String} {f : Fault}
    (ht : t.activity = .beginning (.answer line)) (hp : Command.parse line = .error f) :
    ∃ g' t', t.step id g = some (g', t') ∧
      t'.activity = .finished (.answered (.ofFault f)) ∧ g.Counts g' := by
  obtain ⟨act, employed⟩ := t
  subst ht
  obtain ⟨hact, hc⟩ := Activity.beginLine_of_error (τ := τ) (g := g) hp
  exact ⟨_, _, rfl, (activity_settle ..).trans hact, hc.trans (counts_settle ..)⟩

end Task

namespace System

variable [Remote ρ τ σ] {s s' u : System ρ τ σ} {es : List (Event ρ σ)} {id : TaskId}
  {line : String} {r : Response}

/-! ### Runs -/

/-- The next step of a task takes up a request line. -/
def TakesUp (s : System ρ τ σ) (id : TaskId) (line : String) : Prop :=
  ∃ t, s.task? id = some t ∧ t.activity = .beginning (.answer line)

/-- On its way a run comes to a system in which a task takes up a request line. -/
def Asked (s : System ρ τ σ) (es : List (Event ρ σ)) (id : TaskId) (line : String) : Prop :=
  ∃ u, Visits s es u ∧ u.TakesUp id line

/-- A line that is no request is refused with the next step, which only counts. -/
theorem TakesUp.refuses (ht : s.TakesUp id line) (hr : Refusal (Text.wordsOf line) r) :
    ∃ s', s.after? (.advance id) = some s' ∧ s'.result? id = some (.answered r) ∧
      s.gateway.Counts s'.gateway := by
  obtain ⟨t, ht, hact⟩ := ht
  obtain ⟨f, hf, rfl⟩ := Command.ofWords_of_refusal hr
  obtain ⟨g', t', hstep, hact', hc⟩ := Task.step_of_error id s.gateway hact hf
  have hadv : s.after? (.advance id) = some ⟨g', s.tasks.set id (some t')⟩ := by
    simp [after?, advance?, ht, hstep]
  refine ⟨_, hadv, ?_, hc⟩
  rw [result?, task?_of_set ht rfl, if_pos rfl, Option.bind_some, hact']
  rfl

/-- A task that answers a line does so until it has ended or is dropped. -/
theorem Run.answering (hr : Run s es s')
    (hs : id < s.tasks.length ∧ ∀ t, s.task? id = some t → t.activity.Answering words) :
    ∀ t, s'.task? id = some t → t.activity.Answering words := by
  refine (hr.preserves (I := fun u => id < u.tasks.length ∧
    ∀ t, u.task? id = some t → t.activity.Answering words) (fun {u e u'} hu he => ?_) hs).2
  refine ⟨Nat.lt_of_lt_of_le hu.1 (length_tasks_le he), fun t' ht' => ?_⟩
  rcases task?_cases he ht' with ht | ⟨t, -, ht, hstep⟩ | ⟨op, -, -, hid⟩
  · exact hu.2 t' ht
  · have ha := hu.2 t ht
    rcases Task.step_cases hstep with ⟨line, hline, -⟩ | ⟨g₁, hact, -⟩
    · rw [hline] at ha
      cases ha
    · exact ha.step hact
  · exact absurd hid (Nat.ne_of_lt hu.1)

/-- A task that has taken up a line answers it until it has ended or is dropped. -/
theorem Asked.answering (ha : Asked s es id line) (hr : Run s es s') {t : Task τ σ}
    (ht : s'.task? id = some t) : t.activity.Answering (Text.wordsOf line) := by
  obtain ⟨u, hv, t₀, ht₀, hact⟩ := ha
  obtain ⟨es₁, es₂, -, hu⟩ := (hr.runWhere (P := fun _ _ => True) fun _ _ _ => trivial).visits hv
  have hstart : ∀ t', u.task? id = some t' → t'.activity.Answering (Text.wordsOf line) := by
    intro t' ht'
    rw [ht₀] at ht'
    cases ht'
    rw [hact]
    exact .beginning rfl
  exact Run.answering hu.run ⟨lt_of_task? ht₀, hstart⟩ t ht

theorem Asked.documented (ha : Asked s es id line) (hr : Run s es s') {res : Result σ}
    (hres : s'.result? id = some res) :
    ∃ r, res = .answered r ∧ Documented (Text.wordsOf line) r := by
  rw [result?, Option.bind_eq_some_iff] at hres
  obtain ⟨t, ht, hres⟩ := hres
  have ha := ha.answering hr ht
  generalize t.activity = act at ha hres
  cases ha with
  | answered hr =>
    cases hres
    exact ⟨_, rfl, hr⟩
  | beginning | requesting | returning => cases hres

/-- **Every answer is one that the client may expect**, in every run of a system with any number of
tasks and over any remote side:

* whatever a task that has taken up a request line comes to is an answer to that line with the
  documented shape;
* a line that is no request is refused with the next step of its task, which leaves holders, cache
  and remote side as they are;
* no line of any answer contains a line feed, a carriage return or a tab;
* a client that gets the answers to its requests one after the other cuts the stream of bytes into
  the lines of these answers, knowing only how many values it has asked for in each. -/
theorem answers_documented (hr : Run s es s') :
    (∀ id line res, Asked s es id line → s'.result? id = some res →
      ∃ r, res = .answered r ∧ Documented (Text.wordsOf line) r) ∧
    (∀ u id line r, Visits s es u → u.TakesUp id line → Refusal (Text.wordsOf line) r →
      ∃ u', u.after? (.advance id) = some u' ∧ u'.result? id = some (.answered r) ∧
        u.gateway.Counts u'.gateway) ∧
    (∀ (r : Response), ∀ l ∈ r.lines, ∀ c ∈ l.toList, c ≠ '\n' ∧ c ≠ '\r' ∧ c ≠ '\t') ∧
    ∀ (requests : List (TaskId × String)) (answer : TaskId → Response),
      (∀ q ∈ requests, Asked s es q.1 q.2 ∧ s'.result? q.1 = some (.answered (answer q.1))) →
      ∀ rest, Response.cutAll (requests.map fun q => Command.expected (Text.wordsOf q.2))
          (requests.flatMap (fun q => (answer q.1).encode) ++ rest) =
        some (requests.map fun q => (answer q.1).lines.map Text.toBytes, rest) := by
  refine ⟨fun id line res ha hres => ha.documented hr hres,
    fun u id line r _ ht hrefusal => ht.refuses hrefusal, fun r l hl c hc => ?_,
    fun requests answer hq rest => Response.cutAll_encode (fun q hmem => ?_) rest⟩
  · have hc := Response.not_breaksLine_of_mem_lines hl hc
    simpa [Text.breaksLine, and_assoc] using hc
  · obtain ⟨ha, hres⟩ := hq q hmem
    obtain ⟨r, heq, hdoc⟩ := ha.documented hr hres
    cases heq
    exact hdoc.carries

/-- A request for an attribute whose text has two lines and for one that there is not, and a line
that is no request; the latter is taken up while the former is under way. -/
def twoItems : List (Event Registry Nat) :=
  [.alter fun r => (r.register "u").modify "u" (·.setAttribute "b" "t" (.text "x\ny")),
    .begin (.answer "GET u %s b t b none"), .begin (.answer "PING")] ++
    List.replicate 9 (.advance 0) ++ [.advance 1] ++ List.replicate 9 (.advance 0)

/-- The two answers come to the client as six lines, which it cuts into three and three. -/
theorem answers_documented_twoItems :
    Run inMemory twoItems (inMemory.behind twoItems) ∧
      Response.cutAll [2, 0]
          ((Response.ok ["x\ny", notAvailable]).encode ++
            (Response.err .unknownCommand "PING").encode) =
        some ([(Response.ok ["x\ny", notAvailable]).lines.map Text.toBytes,
          (Response.err .unknownCommand "PING").lines.map Text.toBytes], []) := by
  have hr : Run inMemory twoItems (inMemory.behind twoItems) := run_behind (by decide +kernel)
  have hres₀ : (inMemory.behind twoItems).result? 0 =
      some (.answered (.ok ["x\ny", notAvailable])) := by with_unfolding_all rfl
  have hres₁ : (inMemory.behind twoItems).result? 1 =
      some (.answered (.err .unknownCommand "PING")) := by with_unfolding_all rfl
  have hv : Visits inMemory twoItems (inMemory.behind (twoItems.take 3)) :=
    ⟨_, twoItems.drop 3, rfl, run_behind (by decide +kernel)⟩
  have hasked₀ : Asked inMemory twoItems 0 "GET u %s b t b none" :=
    ⟨_, hv, .ofOperation _, rfl, rfl⟩
  have hasked₁ : Asked inMemory twoItems 1 "PING" := ⟨_, hv, .ofOperation _, rfl, rfl⟩
  have hcut := (answers_documented hr).2.2.2 [(0, "GET u %s b t b none"), (1, "PING")]
    (fun id => if id = 0 then .ok ["x\ny", notAvailable] else .err .unknownCommand "PING")
    (by
      rintro q hq
      simp only [List.mem_cons, List.not_mem_nil, or_false] at hq
      rcases hq with rfl | rfl
      · exact ⟨hasked₀, hres₀⟩
      · exact ⟨hasked₁, hres₁⟩) []
  have hexpected₀ : Command.expected (Text.wordsOf "GET u %s b t b none") = 2 := by decide +kernel
  have hexpected₁ : Command.expected (Text.wordsOf "PING") = 0 := by decide +kernel
  refine ⟨hr, ?_⟩
  simpa [hexpected₀, hexpected₁] using hcut

end System

end AttributeGateway
