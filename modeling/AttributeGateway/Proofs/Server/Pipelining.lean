import AttributeGateway.Proofs.Server.Clients
import AttributeGateway.Proofs.Wire.Framing
import Mathlib.Data.List.Forall2

/-!
# Answers in the order of the lines

The lines of a client are read ahead and answered by tasks that share the gateway with all others,
so answers become ready in any order. They are written in the order of the lines: what has been
written and what is in flight are, one behind the other, the lines that have been read; and what has
been read and what is still in the buffer are the framing of the bytes that have arrived.

* `Connection.Reads` — what a connection has handed out of a stream, and what it still owes.
* `asked`, `arrived` — the lines that tasks have taken up for a client, and the bytes that it has
  sent, as the events of a run determine them.
* `Answered` — how the answer to a line came about.
* `Served` — the invariant, kept by every event (`Served.snoc`).
* `answers_in_order` — the answers that have been written to a client are the answers to the first
  lines of its stream, in their order; and when it has gone of its own accord, to all of them.
-/

namespace AttributeGateway

open LineReader (framing)

/-! ### Reading -/

namespace Connection

variable {c c' : Connection} {limit : Nat} {stream : List UInt8} {lines : List String}
  {line : String}

/-- A connection that has been given a stream and has handed out lines. Whatever will arrive, these
lines and what is owed behind them are the framing of all of it; nothing will arrive once the input
has ended. -/
structure Reads (c : Connection) (limit : Nat) (stream : List UInt8) (lines : List String) :
    Prop where
  consistent : c.reader.Consistent
  limit_eq : c.reader.limit = limit
  owed : ∀ more, (c.ended = true → more = []) → framing limit (stream ++ more) =
    (lines ++ (framing limit (c.reader.buffer ++ more)).1,
      (framing limit (c.reader.buffer ++ more)).2)

theorem reads_start (limit : Nat) : (start limit).Reads limit [] [] :=
  ⟨LineReader.consistent_start limit, rfl, fun _ _ => rfl⟩

/-- What is not read from the connection makes no difference. -/
theorem Reads.congr (h : c.Reads limit stream lines) (hr : c'.reader = c.reader)
    (he : c.ended = true → c'.ended = true) : c'.Reads limit stream lines := by
  refine ⟨by rw [hr]; exact h.consistent, by rw [hr]; exact h.limit_eq, fun more hm => ?_⟩
  rw [hr]
  exact h.owed more fun hended => hm (he hended)

theorem Reads.receive (h : c.Reads limit stream lines) (bytes : List UInt8) :
    (c.receive bytes).Reads limit (if c.ended then stream else stream ++ bytes) lines := by
  rw [Connection.receive]
  split
  · exact h
  · next hended =>
    refine ⟨h.consistent.feed bytes, h.limit_eq, fun more _ => ?_⟩
    have howed := h.owed (bytes ++ more) fun he => absurd he hended
    simpa only [List.append_assoc, LineReader.feed] using howed

/-- A question to the reader, as the connection puts it. -/
theorem Reads.next (h : c.Reads limit stream lines) :
    (¬ c.ended = true ∧ c.reader.Answers c.next) ∨
      c.ended = true ∧ c.reader.AnswersAtEnd c.next := by
  rw [Connection.next]
  split
  · next he => exact .inr ⟨he, h.consistent.answersAtEnd⟩
  · next he => exact .inl ⟨he, h.consistent.answers⟩

/-- A line that is read is the next one. -/
theorem Reads.pull (h : c.Reads limit stream lines) (hp : c.pull? = some (some line, c')) :
    c'.Reads limit stream (lines ++ [line]) ∧ c'.inFlight = c.inFlight ∧ c'.ended = c.ended ∧
      c'.reading = c.reading := by
  have hnext := h.next
  rw [pull?] at hp
  split at hp
  · next line' reader hn =>
    cases hp
    rw [hn] at hnext
    refine ⟨?_, rfl, rfl, rfl⟩
    have hlimit := h.limit_eq
    rcases hnext with ⟨he, ha⟩ | ⟨he, ha⟩
    · refine ⟨ha.consistent h.consistent, ha.limit_eq.trans hlimit, fun more hm => ?_⟩
      have hstep := ha.framing more
      rw [hlimit] at hstep
      rw [h.owed more hm, hstep, List.append_assoc]
      rfl
    · refine ⟨ha.consistent h.consistent, ha.limit_eq.trans hlimit, fun more hm => ?_⟩
      obtain rfl := hm he
      have hstep := ha.framing
      rw [hlimit] at hstep
      rw [h.owed [] fun _ => rfl, List.append_nil, List.append_nil, hstep, List.append_assoc]
      rfl
  · split at hp <;> cases hp
  · cases hp

/-- Nothing more can be read: nothing is left, or the next line is too long. -/
def Exhausted (c : Connection) : Prop :=
  c.ended = true ∧ c.reader.buffer = [] ∨ c.reader.Refuses

/-- Reading stops only when nothing more can be read. -/
theorem Reads.exhausted (h : c.Reads limit stream lines) (hp : c.pull? = some (none, c')) :
    c' = c.stopReading ∧ c.Exhausted := by
  have hnext := h.next
  rw [pull?] at hp
  split at hp
  · cases hp
  · next reader hn =>
    split at hp
    · next he =>
      cases hp
      refine ⟨rfl, .inl ⟨he, ?_⟩⟩
      rw [hn] at hnext
      rcases hnext with ⟨hne, -⟩ | ⟨-, ha⟩
      · exact absurd he hne
      · cases ha with
        | before _ hne => exact absurd rfl hne
        | done hb => exact hb
    · cases hp
  · next f reader hn =>
    cases hp
    rw [hn] at hnext
    refine ⟨rfl, .inr ?_⟩
    rcases hnext with ⟨-, ha⟩ | ⟨-, ha⟩
    · exact (ha.refuses rfl).2.2
    · exact (ha.refuses rfl).2.2

theorem Exhausted.receive (h : c.Exhausted) (bytes : List UInt8) : (c.receive bytes).Exhausted := by
  rw [Connection.receive]
  split
  · exact h
  · next he => exact .inr ((h.resolve_left fun h => he h.1).feed bytes)

theorem Exhausted.congr (h : c.Exhausted) (hr : c'.reader = c.reader)
    (he : c.ended = true → c'.ended = true) : c'.Exhausted := by
  rw [Exhausted, hr]
  exact h.imp_left fun h => ⟨he h.1, h.2⟩

/-- What has been handed out is all that there is, and will be. -/
theorem Exhausted.framing_eq (hx : c.Exhausted) (h : c.Reads limit stream lines)
    {more : List UInt8} (hm : c.ended = true → more = []) :
    (framing limit (stream ++ more)).1 = lines ∧
      (c.ended = true ∨ (framing limit (stream ++ more)).2.isSome = true) := by
  rw [h.owed more hm]
  rcases hx with ⟨he, hb⟩ | hr
  · obtain rfl := hm he
    rw [hb, List.append_nil, LineReader.framing_rest (by simp) (Nat.zero_le _), if_pos rfl,
      List.append_nil]
    exact ⟨rfl, .inl he⟩
  · have hf := hr.framing more
    rw [h.limit_eq] at hf
    rw [hf, List.append_nil]
    exact ⟨rfl, .inr rfl⟩

end Connection

/-! ### Tasks that answer lines -/

section
variable {ρ τ σ : Type} [Remote ρ τ σ] {g g' : Gateway ρ σ} {k : TaskId} {t t' : Task τ σ}
  {line : String}

/-- A task for a line asks for a permit. -/
theorem Task.step_submit (h : t.step k g = some (g', t'))
    (ht : t.activity = .beginning (.submit line)) : t'.activity = .queueing line := by
  rcases step_cases h with ⟨line', hline, -⟩ | ⟨g₁, hact, -⟩
  · rw [ht] at hline
    cases hline
  · rw [ht] at hact
    exact (congrArg Prod.snd (Option.some.inj hact)).symm

/-- A task that waits for a permit goes on with its line once it has one, and is dismissed when
permits are withdrawn. -/
theorem Task.step_queueing (h : t.step k g = some (g', t')) (ht : t.activity = .queueing line) :
    t' = ⟨.beginning (.answer line), true⟩ ∨
      t'.activity = .finished (.answered Activity.dismissed) ∧ g.workers.withdrawn = true := by
  obtain ⟨act, employed⟩ := t
  cases ht
  simp only [step, takeUp] at h
  split at h
  · next hw =>
    cases h
    exact .inr ⟨rfl, hw⟩
  · split at h
    · cases h
      exact .inl rfl
    · cases h

theorem Task.step_finished {r : Result σ} (ht : t.activity = .finished r) : t.step k g = none := by
  obtain ⟨act, employed⟩ := t
  cases ht
  rfl

end

namespace Server

variable {ρ τ σ : Type} [Remote ρ τ σ] {s s' s'' u : Server ρ τ σ} {id : ClientId}
  {e : Event ρ} {es es' : List (Event ρ)} {a : TaskId × String} {r : Response}

/-! ### What a client has sent -/

/-- The bytes of a client that arrive. -/
def Event.bytes (id : ClientId) : Event ρ → List UInt8
  | .receive id' bytes => if id' = id then bytes else []
  | _ => []

/-- Whether a client ends its input. -/
def Event.ends (id : ClientId) : Event ρ → Bool
  | .endInput id' => id' = id
  | _ => false

/-- Whether a client has ended its input. -/
def hasEnded (id : ClientId) (es : List (Event ρ)) : Bool := es.any (·.ends id)

/-- The bytes that a client has sent before it has ended its input. -/
def arrived (id : ClientId) : List (Event ρ) → List UInt8
  | [] => []
  | e :: es => if e.ends id then [] else e.bytes id ++ arrived id es

omit [Remote ρ τ σ] in
theorem hasEnded_snoc (id : ClientId) (es : List (Event ρ)) (e : Event ρ) :
    hasEnded id (es ++ [e]) = (hasEnded id es || e.ends id) := by
  simp [hasEnded]

omit [Remote ρ τ σ] in
theorem arrived_snoc (id : ClientId) (es : List (Event ρ)) (e : Event ρ) :
    arrived id (es ++ [e]) =
      if hasEnded id es then arrived id es else arrived id es ++ e.bytes id := by
  induction es with
  | nil => cases e <;> simp [arrived, hasEnded, Event.ends, Event.bytes]
  | cons e' es ih =>
    rw [List.cons_append, arrived, arrived, ih]
    cases hended : e'.ends id with
    | true => simp [hasEnded, hended]
    | false =>
      have hsame : hasEnded id (e' :: es) = hasEnded id es := by simp [hasEnded, hended]
      rw [hsame, if_neg Bool.false_ne_true, if_neg Bool.false_ne_true]
      split
      · rfl
      · exact (List.append_assoc ..).symm

/-- What has arrived behind a further event and will arrive is what has arrived before it and will
arrive. -/
theorem exists_pending (id : ClientId) (es : List (Event ρ)) (e : Event ρ) {more : List UInt8}
    (hm : hasEnded id (es ++ [e]) = true → more = []) :
    ∃ more', (hasEnded id es = true → more' = []) ∧
      arrived id (es ++ [e]) ++ more = arrived id es ++ more' := by
  rw [arrived_snoc]
  cases hended : hasEnded id es with
  | true =>
    obtain rfl := hm (by rw [hasEnded_snoc, hended, Bool.true_or])
    exact ⟨[], fun _ => rfl, rfl⟩
  | false =>
    refine ⟨e.bytes id ++ more, nofun, ?_⟩
    rw [if_neg Bool.false_ne_true, List.append_assoc]

/-- The lines that are taken up for a client, each with the task that takes it up. -/
def taken (id : ClientId) (s : Server ρ τ σ) : Event ρ → List (TaskId × String)
  | .read id' =>
    if id' = id then
      (((s.client? id).bind Connection.pull?).bind Prod.fst).toList.map (s.system.tasks.length, ·)
    else []
  | _ => []

/-- The lines that are taken up for a client in the course of events, in their order. -/
def asked (id : ClientId) : Server ρ τ σ → List (Event ρ) → List (TaskId × String)
  | _, [] => []
  | s, e :: es => (s.after? e).elim [] fun s' => taken id s e ++ asked id s' es

theorem asked_append (hr : Run s es s') (es' : List (Event ρ)) :
    asked id s (es ++ es') = asked id s es ++ asked id s' es' := by
  induction es generalizing s with
  | nil =>
    obtain rfl := run_nil.1 hr
    rfl
  | cons e es ih =>
    obtain ⟨u, hu, hr⟩ := run_cons.1 hr
    simp only [List.cons_append, asked, hu, Option.elim_some, ih hr, List.append_assoc]

theorem asked_snoc (hr : Run s es s') (he : s'.after? e = some s'') :
    asked id s (es ++ [e]) = asked id s es ++ taken id s' e := by
  rw [asked_append hr]
  simp [asked, he]

/-! ### How lines are answered -/

/-- A task has got a permit and is answering its line. -/
def Routed (s : Server ρ τ σ) (es : List (Event ρ)) (a : TaskId × String) : Prop :=
  ∃ u, Visits s es u ∧ u.system.task? a.1 = some ⟨.beginning (.answer a.2), true⟩

/-- Permits have been withdrawn. -/
def Withdrawn (s : Server ρ τ σ) (es : List (Event ρ)) : Prop :=
  ∃ u, Visits s es u ∧ u.system.gateway.workers.withdrawn = true

theorem Routed.snoc (h : Routed s es a) (e : Event ρ) : Routed s (es ++ [e]) a := by
  obtain ⟨u, hu, ha⟩ := h
  exact ⟨u, hu.snoc e, ha⟩

theorem Withdrawn.snoc (h : Withdrawn s es) (e : Event ρ) : Withdrawn s (es ++ [e]) := by
  obtain ⟨u, hu, hw⟩ := h
  exact ⟨u, hu.snoc e, hw⟩

/-- A line has been answered: the answer is what its task has come to, which has answered the line
having a permit, unless permits have been withdrawn. -/
def Answered (s : Server ρ τ σ) (es : List (Event ρ)) (a : TaskId × String) (r : Response) :
    Prop :=
  (∃ u, Visits s es u ∧ u.system.result? a.1 = some (.answered r)) ∧
    (Routed s es a ∨ r = Activity.dismissed ∧ Withdrawn s es)

theorem Answered.snoc (h : Answered s es a r) (e : Event ρ) : Answered s (es ++ [e]) a r := by
  obtain ⟨⟨u, hu, hr⟩, hw⟩ := h
  exact ⟨⟨u, hu.snoc e, hr⟩, hw.imp (·.snoc e) fun h => ⟨h.1, h.2.snoc e⟩⟩

/-- How far the task for a line has come, unless it has been dropped. -/
def Course (s : Server ρ τ σ) (es : List (Event ρ)) (s' : Server ρ τ σ) (a : TaskId × String) :
    Prop :=
  ∀ t, s'.system.task? a.1 = some t →
    t.activity = .beginning (.submit a.2) ∨ t.activity = .queueing a.2 ∨ Routed s es a ∨
      t.activity = .finished (.answered Activity.dismissed) ∧ Withdrawn s es

theorem Course.snoc (h : Course s es s' a) (hr : Run s es s') (he : s'.after? e = some s'')
    (ha : a.1 < s'.system.tasks.length) : Course s (es ++ [e]) s'' a := by
  intro t' ht'
  rcases (step_of_after? he).task?_cases ht' with ht | ⟨t, ht, hstep⟩ | hnew
  · rcases h t' ht with hact | hact | hrouted | ⟨hact, hw⟩
    · exact .inl hact
    · exact .inr (.inl hact)
    · exact .inr (.inr (.inl (hrouted.snoc e)))
    · exact .inr (.inr (.inr ⟨hact, hw.snoc e⟩))
  · rcases h t ht with hact | hact | hrouted | ⟨hact, -⟩
    · exact .inr (.inl (Task.step_submit hstep hact))
    · rcases Task.step_queueing hstep hact with rfl | ⟨hact', hw⟩
      · exact .inr (.inr (.inl ⟨s'', (hr.snoc he).visits, ht'⟩))
      · exact .inr (.inr (.inr ⟨hact', s', hr.visits.snoc e, hw⟩))
    · exact .inr (.inr (.inl (hrouted.snoc e)))
    · rw [Task.step_finished hact] at hstep
      cases hstep
  · exact absurd hnew (Nat.ne_of_lt ha)

theorem Course.answered (h : Course s es s' a) (hr : Run s es s')
    (hres : s'.system.result? a.1 = some (.answered r)) : Answered s es a r := by
  refine ⟨⟨s', hr.visits, hres⟩, ?_⟩
  obtain ⟨t, ht, hres⟩ := Option.bind_eq_some_iff.1 hres
  rcases h t ht with hact | hact | hrouted | ⟨hact, hw⟩
  · rw [hact] at hres
    cases hres
  · rw [hact] at hres
    cases hres
  · exact .inl hrouted
  · rw [hact] at hres
    cases hres
    exact .inr ⟨rfl, hw⟩

/-! ### The invariant -/

/-- The lines that have been taken up for a client. -/
def linesAsked (id : ClientId) (s : Server ρ τ σ) (es : List (Event ρ)) : List String :=
  (asked id s es).map Prod.snd

/-- How the connection of a client stands when so many lines have been answered. -/
structure Here (id : ClientId) (s : Server ρ τ σ) (es : List (Event ρ)) (answered : Nat)
    (c : Connection) : Prop where
  reads : c.Reads s.config.maxLineLength.toNat (arrived id es) (linesAsked id s es)
  ended : c.ended = hasEnded id es
  /-- What is in flight has been taken up and not been answered. -/
  flight : c.inFlight = ((asked id s es).drop answered).map Prod.fst
  /-- Reading stops only when nothing more can be read. -/
  stopped : c.reading = false → .failInput id ∈ es ∨ c.Exhausted

/-- What is left of a client that has gone when so many lines have been answered. -/
structure Gone (id : ClientId) (s : Server ρ τ σ) (es : List (Event ρ)) (answered : Nat) :
    Prop where
  /-- The lines that have been taken up are the first lines of what it has sent. -/
  lines : ∀ more, (hasEnded id es = true → more = []) →
    linesAsked id s es <+: (framing s.config.maxLineLength.toNat (arrived id es ++ more)).1
  /-- If nothing has gone wrong, they are all that there are, and have been answered. -/
  complete : .cut id ∈ es ∨ .failInput id ∈ es ∨
    answered = (asked id s es).length ∧
      ∀ more, (hasEnded id es = true → more = []) →
        (framing s.config.maxLineLength.toNat (arrived id es ++ more)).1 = linesAsked id s es ∧
          (hasEnded id es = true ∨
            (framing s.config.maxLineLength.toNat (arrived id es ++ more)).2.isSome = true)

/-- A client has been served, from the moment when it was accepted. -/
structure Served (id : ClientId) (s : Server ρ τ σ) (es : List (Event ρ)) (s' : Server ρ τ σ) :
    Prop where
  run : Run s es s'
  known : id ≤ s'.accepted
  /-- Tasks begin in the order of the lines. -/
  ordered : (asked id s es).Pairwise fun a b => a.1 < b.1
  begun : ∀ a ∈ asked id s es, a.1 < s'.system.tasks.length
  course : ∀ a ∈ asked id s es, Course s es s' a
  /-- The first lines have been answered. -/
  answered : List.Forall₂ (Answered s es) ((asked id s es).take (s'.answers id).length)
    (s'.answers id)
  here : ∀ {c}, s'.client? id = some c → Here id s es (s'.answers id).length c
  gone : s'.client? id = none → Gone id s es (s'.answers id).length

variable {c c' : Connection} {n : Nat}

/-- No more lines have been answered than have been taken up. -/
theorem Served.length_le (h : Served id s es s') :
    (s'.answers id).length ≤ (asked id s es).length := by
  have hlen := h.answered.length_eq
  rw [List.length_take] at hlen
  omega

/-- What has been handed out of a stream are its first lines, whatever will arrive. -/
theorem Here.lines (h : Here id s es n c) (more : List UInt8)
    (hm : hasEnded id es = true → more = []) :
    linesAsked id s es <+: (framing s.config.maxLineLength.toNat (arrived id es ++ more)).1 := by
  rw [← h.ended] at hm
  rw [h.reads.owed more hm]
  exact List.prefix_append _ _

/-- A client goes of its own accord when nothing more can be read and all has been answered. -/
theorem Here.gone (h : Here id s es n c) (hn : n ≤ (asked id s es).length) (hd : c.isDone = true) :
    Gone id s es n := by
  rw [Connection.isDone, Bool.and_eq_true, Bool.not_eq_true', List.isEmpty_iff] at hd
  refine ⟨h.lines, .inr ?_⟩
  refine (h.stopped hd.1).imp_right fun hx => ⟨?_, fun more hm => ?_⟩
  · have hflight := h.flight
    rw [hd.2, eq_comm, List.map_eq_nil_iff, List.drop_eq_nil_iff] at hflight
    exact Nat.le_antisymm hn hflight
  · rw [← h.ended] at hm ⊢
    exact hx.framing_eq h.reads hm

/-- Lines that have been the first ones stay so, whatever arrives. -/
theorem lines_snoc (ha : asked id s (es ++ [e]) = asked id s es)
    (hl : ∀ more, (hasEnded id es = true → more = []) →
      linesAsked id s es <+: (framing s.config.maxLineLength.toNat (arrived id es ++ more)).1)
    (more : List UInt8) (hm : hasEnded id (es ++ [e]) = true → more = []) :
    linesAsked id s (es ++ [e]) <+:
      (framing s.config.maxLineLength.toNat (arrived id (es ++ [e]) ++ more)).1 := by
  obtain ⟨more', hm', harrived⟩ := exists_pending id es e hm
  rw [linesAsked, ha, ← linesAsked, harrived]
  exact hl more' hm'

/-- A client that has gone stays as it was left, whatever it sends. -/
theorem Gone.snoc (h : Gone id s es n) (ha : asked id s (es ++ [e]) = asked id s es) :
    Gone id s (es ++ [e]) n := by
  refine ⟨lines_snoc ha h.lines, ?_⟩
  rcases h.complete with hcut | hfail | ⟨hn, hc⟩
  · exact .inl (List.mem_append_left _ hcut)
  · exact .inr (.inl (List.mem_append_left _ hfail))
  · refine .inr (.inr ⟨by rw [ha]; exact hn, fun more hm => ?_⟩)
    obtain ⟨more', hm', harrived⟩ := exists_pending id es e hm
    obtain ⟨hf, hstop⟩ := hc more' hm'
    rw [linesAsked, ha, ← linesAsked, harrived, hasEnded_snoc]
    exact ⟨hf, hstop.imp_left fun hended => by rw [hended, Bool.true_or]⟩

/-- An event by which no line of the client is taken up does nothing to the tasks for its lines but
let them go on. -/
theorem Served.unasked (h : Served id s es s') (he : s'.after? e = some s'')
    (ha : asked id s (es ++ [e]) = asked id s es)
    (hanswered : List.Forall₂ (Answered s (es ++ [e]))
      ((asked id s es).take (s''.answers id).length) (s''.answers id))
    (hhere : ∀ {c}, s''.client? id = some c → Here id s (es ++ [e]) (s''.answers id).length c)
    (hgone : s''.client? id = none → Gone id s (es ++ [e]) (s''.answers id).length) :
    Served id s (es ++ [e]) s'' := by
  have hages := (step_of_after? he).ages
  refine ⟨h.run.snoc he, Nat.le_trans h.known hages.accepted, ?_, ?_, ?_, ?_, hhere, hgone⟩
  · rw [ha]
    exact h.ordered
  · rw [ha]
    exact fun a hmem => Nat.lt_of_lt_of_le (h.begun a hmem) hages.tasks
  · rw [ha]
    exact fun a hmem => (h.course a hmem).snoc h.run he (h.begun a hmem)
  · rw [ha]
    exact hanswered

/-- An event by which no line of the client is taken up and no answer is written to it. -/
theorem Served.idle (h : Served id s es s') (he : s'.after? e = some s'')
    (ha : asked id s (es ++ [e]) = asked id s es) (ho : s''.answers id = s'.answers id)
    (hhere : ∀ c, s''.client? id = some c → Here id s (es ++ [e]) (s'.answers id).length c)
    (hgone : s''.client? id = none → Gone id s (es ++ [e]) (s'.answers id).length) :
    Served id s (es ++ [e]) s'' := by
  refine h.unasked he ha ?_ ?_ ?_ <;> rw [ho]
  · exact h.answered.imp fun _ _ hanswered => hanswered.snoc e
  · exact hhere _
  · exact hgone

omit [Remote ρ τ σ] in
theorem bytes_of_other (he : e.client? ≠ some id) : e.bytes id = [] := by
  cases e with
  | receive id' bytes => exact if_neg fun h => he (congrArg some h)
  | _ => rfl

omit [Remote ρ τ σ] in
theorem ends_of_other (he : e.client? ≠ some id) : e.ends id = false := by
  cases e with
  | endInput id' => exact decide_eq_false fun h => he (congrArg some h)
  | _ => rfl

omit [Remote ρ τ σ] in
theorem taken_of_other (he : e.client? ≠ some id) : taken id s e = [] := by
  cases e with
  | read id' => exact if_neg fun h => he (congrArg some h)
  | _ => rfl

/-- Nothing arrives from a client by an event that is not about that. -/
theorem Here.quiet (h : Here id s es n c) (ha : asked id s (es ++ [e]) = asked id s es)
    (hb : e.bytes id = []) (hends : e.ends id = false) : Here id s (es ++ [e]) n c := by
  have harrived : arrived id (es ++ [e]) = arrived id es := by
    rw [arrived_snoc, hb, List.append_nil, ite_self]
  refine ⟨?_, ?_, ?_, fun hr => (h.stopped hr).imp_left (List.mem_append_left _)⟩
  · rw [harrived, linesAsked, ha]
    exact h.reads
  · rw [hasEnded_snoc, hends, Bool.or_false]
    exact h.ended
  · rw [ha]
    exact h.flight

theorem Here.receive (h : Here id s es n c) (bytes : List UInt8)
    (ha : asked id s (es ++ [.receive id bytes]) = asked id s es) :
    Here id s (es ++ [.receive id bytes]) n (c.receive bytes) := by
  obtain ⟨hended, hflight, hreading⟩ : (c.receive bytes).ended = c.ended ∧
      (c.receive bytes).inFlight = c.inFlight ∧ (c.receive bytes).reading = c.reading := by
    rw [Connection.receive]
    split <;> exact ⟨rfl, rfl, rfl⟩
  refine ⟨?_, ?_, ?_, fun hr => ?_⟩
  · have hreads := h.reads.receive bytes
    rw [h.ended] at hreads
    rw [arrived_snoc, linesAsked, ha, Event.bytes, if_pos rfl]
    exact hreads
  · rw [hended, h.ended, hasEnded_snoc]
    exact (Bool.or_false _).symm
  · rw [hflight, ha]
    exact h.flight
  · rw [hreading] at hr
    exact (h.stopped hr).imp (List.mem_append_left _) (·.receive bytes)

theorem Here.endInput (h : Here id s es n c)
    (ha : asked id s (es ++ [.endInput id]) = asked id s es) :
    Here id s (es ++ [.endInput id]) n c.endInput := by
  have harrived : arrived id (es ++ [.endInput id]) = arrived id es := by
    rw [arrived_snoc]
    simp [Event.bytes]
  refine ⟨?_, ?_, ?_, fun hr => ?_⟩
  · rw [harrived, linesAsked, ha]
    exact h.reads.congr rfl fun _ => rfl
  · simp [hasEnded, Event.ends, Connection.endInput]
  · rw [ha]
    exact h.flight
  · exact (h.stopped hr).imp (List.mem_append_left _) fun hx => hx.congr rfl fun _ => rfl

theorem Here.failInput (h : Here id s es n c)
    (ha : asked id s (es ++ [.failInput id]) = asked id s es) :
    Here id s (es ++ [.failInput id]) n c.stopReading := by
  have hquiet := h.quiet ha rfl rfl
  exact ⟨hquiet.reads.congr rfl fun he => he, hquiet.ended, hquiet.flight,
    fun _ => .inl (List.mem_append_right _ (List.mem_singleton_self _))⟩

/-- Reading from a client stops when nothing more can be read. -/
theorem Here.stop (h : Here id s es n c) (hp : c.pull? = some (none, c'))
    (ha : asked id s (es ++ [.read id]) = asked id s es) :
    Here id s (es ++ [.read id]) n c' := by
  obtain ⟨rfl, hx⟩ := h.reads.exhausted hp
  have hquiet := h.quiet ha rfl rfl
  exact ⟨hquiet.reads.congr rfl fun he => he, hquiet.ended, hquiet.flight,
    fun _ => .inr (hx.congr rfl fun he => he)⟩

/-- A line is taken up by the next task. -/
theorem Here.ask (h : Here id s es n c) {line : String} {k : TaskId} (hr : c.reading = true)
    (hp : c.pull? = some (some line, c')) (hn : n ≤ (asked id s es).length)
    (ha : asked id s (es ++ [.read id]) = asked id s es ++ [(k, line)]) :
    Here id s (es ++ [.read id]) n (c'.await k) := by
  obtain ⟨hreads, hflight, hended, hreading⟩ := h.reads.pull hp
  have harrived : arrived id (es ++ [.read id]) = arrived id es := by
    rw [arrived_snoc]
    simp [Event.bytes]
  refine ⟨?_, ?_, ?_, fun hno => ?_⟩
  · rw [harrived, linesAsked, ha, List.map_append]
    exact hreads.congr rfl fun he => he
  · rw [hasEnded_snoc]
    have hsame : (c'.await k).ended = hasEnded id es := hended.trans h.ended
    simpa [Event.ends] using hsame
  · rw [ha, List.drop_append_of_le_length hn, List.map_append, ← h.flight, ← hflight]
    rfl
  · rw [Connection.await, hreading, hr] at hno
    cases hno

/-- The first line in flight has been answered. -/
theorem Here.settle (h : Here id s es n c)
    (ha : asked id s (es ++ [.answer id]) = asked id s es) :
    Here id s (es ++ [.answer id]) (n + 1) c.settle := by
  have hquiet := h.quiet ha rfl rfl
  refine ⟨hquiet.reads.congr rfl fun he => he, hquiet.ended, ?_,
    fun hr => (hquiet.stopped hr).imp_right fun hx => hx.congr rfl fun he => he⟩
  rw [Connection.settle, hquiet.flight, ← List.map_tail, List.tail_drop]

/-- The task for a line has begun. -/
theorem course_begin {line : String} (hs : s'.system = u.system.begin (.submit line)) :
    Course s es s' (u.system.tasks.length, line) := by
  intro t ht
  rw [hs, System.task?_begin, if_pos rfl] at ht
  cases ht
  exact .inl rfl

/-- A line is taken up. -/
theorem Served.ask (h : Served id s es s') (he : s'.after? (.read id) = some s'')
    {line : String} (hc : s'.client? id = some c) (hr : c.reading = true)
    (hp : c.pull? = some (some line, c'))
    (hc' : s''.client? id = some (c'.await s'.system.tasks.length))
    (hs : s''.system = s'.system.begin (.submit line))
    (ha : asked id s (es ++ [.read id]) = asked id s es ++ [(s'.system.tasks.length, line)])
    (ho : s''.answers id = s'.answers id) : Served id s (es ++ [.read id]) s'' := by
  have hages := (step_of_after? he).ages
  have hn := h.length_le
  have hlength : s''.system.tasks.length = s'.system.tasks.length + 1 := by
    rw [hs, System.begin, List.length_append, List.length_singleton]
  refine ⟨h.run.snoc he, Nat.le_trans h.known hages.accepted, ?_, ?_, ?_, ?_, ?_, ?_⟩
  · rw [ha, List.pairwise_append]
    refine ⟨h.ordered, List.pairwise_singleton _ _, fun a hmem b hb => ?_⟩
    rw [List.mem_singleton.1 hb]
    exact h.begun a hmem
  · rw [ha]
    intro a hmem
    rcases List.mem_append.1 hmem with hmem | hmem
    · exact Nat.lt_of_lt_of_le (h.begun a hmem) hages.tasks
    · rw [List.mem_singleton.1 hmem, hlength]
      exact Nat.lt_succ_self _
  · rw [ha]
    intro a hmem
    rcases List.mem_append.1 hmem with hmem | hmem
    · exact (h.course a hmem).snoc h.run he (h.begun a hmem)
    · rw [List.mem_singleton.1 hmem]
      exact course_begin hs
  · rw [ha, ho, List.take_append_of_le_length hn]
    exact h.answered.imp fun _ _ hanswered => hanswered.snoc _
  · intro c₁ hc₁
    obtain rfl := Option.some.inj (hc'.symm.trans hc₁)
    rw [ho]
    exact (h.here hc).ask hr hp hn ha
  · intro hnone
    rw [hnone] at hc'
    cases hc'

/-- The first line in flight is answered. -/
theorem Served.answer (h : Served id s es s') (he : s'.after? (.answer id) = some s'')
    {k : TaskId} (hc : s'.client? id = some c) (hk : c.inFlight.head? = some k)
    (hr : s'.system.result? k = some (.answered r)) (hc' : s''.client? id = some c.settle)
    (ha : asked id s (es ++ [.answer id]) = asked id s es)
    (ho : s''.answers id = s'.answers id ++ [r]) : Served id s (es ++ [.answer id]) s'' := by
  have hhere := h.here hc
  -- The line is the first one that has not been answered.
  obtain ⟨a, hat, rfl⟩ : ∃ a, (asked id s es)[(s'.answers id).length]? = some a ∧ a.1 = k := by
    rw [hhere.flight, List.head?_map, List.head?_drop, Option.map_eq_some_iff] at hk
    exact hk
  have hmem := List.mem_of_getElem? hat
  have hlen : (s''.answers id).length = (s'.answers id).length + 1 := by
    rw [ho, List.length_append, List.length_singleton]
  refine h.unasked he ha ?_ ?_ ?_
  · have hanswered : Answered s es a r := (h.course a hmem).answered h.run hr
    rw [hlen, List.take_add_one, hat, ho, Option.toList_some]
    exact List.rel_append (h.answered.imp fun _ _ hold => hold.snoc _)
      (.cons (hanswered.snoc _) .nil)
  · intro c₁ hc₁
    obtain rfl := Option.some.inj (hc'.symm.trans hc₁)
    rw [hlen]
    exact hhere.settle ha
  · intro hnone
    rw [hnone] at hc'
    cases hc'

/-- **Whatever happens**, a client goes on being served. -/
theorem Served.snoc (h : Served id s es s') (he : s'.after? e = some s'') :
    Served id s (es ++ [e]) s'' := by
  have ha : asked id s (es ++ [e]) = asked id s es ++ taken id s' e := asked_snoc h.run he
  have hsame (ht : taken id s' e = []) : asked id s (es ++ [e]) = asked id s es := by
    rw [ha, ht, List.append_nil]
  have hn := h.length_le
  -- A client that is there before and behind the event, or is not there before it.
  have hstay {f : Connection → Connection} (ht : taken id s' e = [])
      (hc : s''.client? id = (s'.client? id).map f) (ho : s''.answers id = s'.answers id)
      (hhere : ∀ c, Here id s es (s'.answers id).length c →
        Here id s (es ++ [e]) (s'.answers id).length (f c)) : Served id s (es ++ [e]) s'' := by
    refine h.idle he (hsame ht) ho (fun c' hc' => ?_) fun hnone => ?_
    · rw [hc, Option.map_eq_some_iff] at hc'
      obtain ⟨c, hc₀, rfl⟩ := hc'
      exact hhere c (h.here hc₀)
    · rw [hc, Option.map_eq_none_iff] at hnone
      exact (h.gone hnone).snoc (hsame ht)
  have hgone (ht : taken id s' e = []) (hc : s''.client? id = none)
      (ho : s''.answers id = s'.answers id)
      (hg : Gone id s (es ++ [e]) (s'.answers id).length) : Served id s (es ++ [e]) s'' := by
    refine h.idle he (hsame ht) ho (fun c' hc' => ?_) fun _ => hg
    rw [hc] at hc'
    cases hc'
  have hservice : Service s' id e s'' :=
    (step_of_after? he).service fun _ => Nat.ne_of_lt (Nat.lt_succ_of_le h.known)
  cases hservice with
  | other hother hc ho =>
    have ht := taken_of_other (s := s') hother
    exact hstay (f := fun c => c) ht (by rw [hc, Option.map_id']) ho fun c hc =>
      hc.quiet (hsame ht) (bytes_of_other hother) (ends_of_other hother)
  | receive hc ho => exact hstay rfl hc ho fun c hc => hc.receive _ (hsame rfl)
  | endInput hc ho => exact hstay rfl hc ho fun c hc => hc.endInput (hsame rfl)
  | failInput hc ho => exact hstay rfl hc ho fun c hc => hc.failInput (hsame rfl)
  | @ask c c' line _ hc hr hp hc' hs ho =>
    have ht : taken id s' (.read id) = [(s'.system.tasks.length, line)] := by
      simp [taken, hc, hp]
    rw [Connection.hasRoom, Bool.and_eq_true] at hr
    exact h.ask he hc hr.1 hp hc' hs (by rw [ha, ht]) ho
  | @stop c c' _ hc hr hp hc' ho =>
    have ht : taken id s' (.read id) = [] := by simp [taken, hc, hp]
    refine h.idle he (hsame ht) ho (fun c₁ hc₁ => ?_) fun hnone => ?_
    · obtain rfl := Option.some.inj (hc'.symm.trans hc₁)
      exact (h.here hc).stop hp (hsame ht)
    · rw [hnone] at hc'
      cases hc'
  | answer hc hk hr hc' ho => exact h.answer he hc hk hr hc' (hsame rfl) ho
  | leave hc hd hc' ho =>
    exact hgone rfl hc' ho (((h.here hc).gone hn hd).snoc (hsame rfl))
  | @cut c _ hc hc' ho =>
    exact hgone rfl hc' ho ⟨lines_snoc (hsame rfl) (h.here hc).lines,
      .inl (List.mem_append_right _ (List.mem_singleton_self _))⟩

/-! ### Runs -/

/-- A client that is accepted begins without anything. -/
theorem served_connect {config : Config} {remote : ρ} {s₀ : Server ρ τ σ} {es₀ : List (Event ρ)}
    (h₀ : start? config remote = some s₀) (hu : Run s₀ es₀ u)
    (hc : u.after? .connect = some s) (hid : u.connect.1 = some id) :
    Served id s [] s ∧ s.config = config := by
  have hconfig : u.config = config := by
    obtain rfl := eq_of_start? h₀
    exact hu.ages.config
  obtain ⟨rfl, hplaces⟩ : id = u.accepted + 1 ∧ u.places ≠ 0 := by
    rw [connect] at hid
    split at hid
    · cases hid
    · next hp =>
      cases hid
      exact ⟨rfl, by rw [hp]; exact Nat.succ_ne_zero _⟩
  cases step_of_after? hc with
  | turnAway _ hp => exact absurd hp hplaces
  | accept _ _ hclients ha ho hf =>
    have hclient : s.client? (u.accepted + 1) = some (.start s.config.maxLineLength.toNat) := by
      rw [client?, hclients, Table.get?_insert, if_pos rfl, hf]
    have hanswers : s.answers (u.accepted + 1) = [] := by
      rw [answers, ho]
      exact (fresh_of_run h₀ hu _ (Nat.lt_succ_self u.accepted)).2
    refine ⟨?_, hf.trans hconfig⟩
    constructor
    case run => exact .nil s
    case known => exact Nat.le_of_eq ha.symm
    case ordered => exact .nil
    case begun | course =>
      intro a hmem
      cases hmem
    case answered =>
      rw [hanswers]
      exact .nil
    case here =>
      intro c hc
      obtain rfl := Option.some.inj (hclient.symm.trans hc)
      refine ⟨Connection.reads_start _, rfl, ?_, fun hno => Bool.noConfusion hno⟩
      rw [asked, List.drop_nil]
      rfl
    case gone =>
      intro hnone
      rw [hclient] at hnone
      cases hnone

theorem Served.run_snoc (h : Served id s [] s) (hr : Run s es s') : Served id s es s' := by
  induction hr with
  | nil => exact h
  | snoc _ he ih => exact ih.snoc he

/-- Permits are withdrawn only if somebody asks for it. -/
theorem Withdrawn.mem {config : Config} {remote : ρ} {s₀ : Server ρ τ σ} {es₀ : List (Event ρ)}
    (h : Withdrawn s es) (h₀ : start? config remote = some s₀) (hu : Run s₀ es₀ u)
    (hc : u.after? .connect = some s) : .withdraw ∈ es₀ ∨ .withdraw ∈ es := by
  obtain ⟨v, ⟨es₁, es₂, rfl, hv⟩, hw⟩ := h
  rcases Run.withdrawn hv hw with hw | hmem
  · rcases (step_of_after? hc).withdrawn hw with hw | hno
    · rcases hu.withdrawn hw with hw | hmem
      · obtain rfl := eq_of_start? h₀
        cases hw
      · exact .inl hmem
    · cases hno
  · exact .inr (List.mem_append_left _ hmem)

/-- **Answers are written in the order of the lines**, for every client, however its bytes arrive,
however many lines may be in flight, and in whatever order tasks come to their results. At every
moment the lines that have been taken up are the first lines of the stream of the client, each by a
task of its own, and what has been written are the answers to the first of them, one behind the
other; nothing of it changes later. Each of these answers is what a request for the line has come
to, unless permits have been withdrawn, which happens only if somebody asks for it. When a client
has gone without having been cut off and without reading from it having failed, all its lines have
been answered, up to the end of its input or to a line that is too long. -/
theorem answers_in_order {config : Config} {remote : ρ} {s₀ : Server ρ τ σ}
    {es₀ : List (Event ρ)} (h₀ : start? config remote = some s₀) (hu : Run s₀ es₀ u)
    (hc : u.after? .connect = some s) (hid : u.connect.1 = some id) (hr : Run s es s') :
    (asked id s es).Pairwise (fun a b => a.1 < b.1) ∧
    linesAsked id s es <+: (framing config.maxLineLength.toNat (arrived id es)).1 ∧
    s'.written id = (s'.answers id).flatMap Response.encode ∧
    List.Forall₂ (Answered s es) ((asked id s es).take (s'.answers id).length)
      (s'.answers id) ∧
    (Withdrawn s es → .withdraw ∈ es₀ ∨ .withdraw ∈ es) ∧
    (∀ es' s'', Run s' es' s'' → asked id s es <+: asked id s (es ++ es') ∧
      s'.answers id <+: s''.answers id ∧ s'.written id <+: s''.written id) ∧
    (s'.client? id = none → .cut id ∉ es → .failInput id ∉ es →
      linesAsked id s es = (framing config.maxLineLength.toNat (arrived id es)).1 ∧
      (s'.answers id).length = (asked id s es).length ∧
      (hasEnded id es = true ∨
        (framing config.maxLineLength.toNat (arrived id es)).2.isSome = true)) := by
  obtain ⟨hstart, rfl⟩ := served_connect h₀ hu hc hid
  have h := hstart.run_snoc hr
  refine ⟨h.ordered, ?_, s'.written_eq id, h.answered, fun hw => hw.mem h₀ hu hc,
    fun es' s'' hr' => ?_, fun hnone hcut hfail => ?_⟩
  · -- Nothing more has to arrive for the lines that have been taken up.
    cases hclient : s'.client? id with
    | some c => simpa using (h.here hclient).lines [] fun _ => rfl
    | none => simpa using (h.gone hclient).lines [] fun _ => rfl
  · have hanswers := hr'.answers_prefix id
    refine ⟨?_, hanswers, ?_⟩
    · rw [asked_append hr]
      exact List.prefix_append _ _
    · obtain ⟨later, hlater⟩ := hanswers
      rw [written_eq, written_eq, ← hlater, List.flatMap_append]
      exact List.prefix_append _ _
  · rcases (h.gone hnone).complete with hno | hno | ⟨hn, hall⟩
    · exact absurd hno hcut
    · exact absurd hno hfail
    · have hlines := hall [] fun _ => rfl
      rw [List.append_nil] at hlines
      exact ⟨hlines.1.symm, hn, hlines.2⟩

/-- A server over endpoints in memory that has not accepted any client. -/
def inMemory : Server Registry Registry.Found Nat where
  config := {}
  system := { gateway := { remote := {}, workers := ⟨50, [], [], false⟩ } }
  places := 10000

/-- A client sends two lines, the second one without an end. The task for the second line is the
first to end. -/
def overtaking : List (Event Registry) :=
  [.receive 1 [0x58], .receive 1 [0x0A, 0x59], .endInput 1, .read 1, .read 1, .read 1] ++
  List.replicate 3 (.advance 1) ++ List.replicate 3 (.advance 0) ++
  [.answer 1, .answer 1, .leave 1]

theorem answers_in_order_overtaking :
    linesAsked 1 inMemory.connect.2 overtaking = ["X", "Y"] ∧
      ((inMemory.connect.2.behind overtaking).answers 1).length = 2 := by
  have h₀ : start? {} {} = some inMemory := by
    rw [start?, if_pos (by decide)]
    rfl
  have hc : inMemory.after? .connect = some inMemory.connect.2 := rfl
  have hid : inMemory.connect.1 = some 1 := rfl
  have hr : Run inMemory.connect.2 overtaking (inMemory.connect.2.behind overtaking) :=
    run_behind (by decide +kernel)
  have hgone : (inMemory.connect.2.behind overtaking).client? 1 = none := by decide +kernel
  have hcut : .cut 1 ∉ overtaking := by simp [overtaking]
  have hfail : .failInput 1 ∉ overtaking := by simp [overtaking]
  have hframing :
      (framing ({} : Config).maxLineLength.toNat (arrived 1 overtaking)).1 = ["X", "Y"] := by
    decide +kernel
  obtain ⟨-, -, -, -, -, -, hall⟩ := answers_in_order h₀ (.nil _) hc hid hr
  obtain ⟨hlines, hlength, -⟩ := hall hgone hcut hfail
  have hxy := hlines.trans hframing
  have htwo := congrArg List.length hxy
  rw [linesAsked, List.length_map] at htwo
  exact ⟨hxy, hlength.trans htwo⟩

end Server

end AttributeGateway
