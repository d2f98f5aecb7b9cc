import AttributeGateway.CommandLine
import AttributeGateway.Proofs.Server.Stalling

/-!
# Which servers start

A configuration without defects starts a server unless it asks for more permits or more places than
can be counted. Asking for so many is no defect, though no server can be had for it. A server that
is started can do what it is started for: there is a place for a client, room for a line of it and a
permit for the request, so that the first line of the first client comes to its answer, whatever it
says.

* `start?_eq_none_iff` — when no server is started.
* `exists_ask` — a client is accepted where there is a place, and its first line is taken up.
* `exists_answer` — the first line in flight of a client can come to its answer.
* `started_unless_uncountable` — a configuration without defects starts a server that answers,
  unless it asks for too much.
-/

namespace AttributeGateway

/-- A line that is not too long is handed out when it has arrived with its end. -/
theorem LineReader.next_of_line {line : List UInt8} {limit : Nat} (hfeed : lineFeed ∉ line)
    (hlen : line.length ≤ limit) :
    ((start limit).feed (line ++ [lineFeed])).next = (.ok (some (lineText line)), start limit) := by
  have hend : findEnd 0 (line ++ [lineFeed]) = some line.length := by
    have hnone : line.findIdx? (· == lineFeed) = none := by
      rw [List.findIdx?_eq_none_iff]
      intro b hb
      simpa using fun h : b = lineFeed => hfeed (h ▸ hb)
    simp [findEnd, List.findIdx?_append, hnone]
  simp [next, start, feed, hend, hlen]

namespace Server

variable {ρ τ σ : Type} [Remote ρ τ σ] {s : Server ρ τ σ} {id : ClientId} {k : TaskId}
  {conn : Connection} {es : List (Event ρ)} {c : Config} {remote : ρ} {line : List UInt8}

/-! ### What is counted -/

omit [Remote ρ τ σ] in
theorem start?_eq_none_iff : (start? c remote : Option (Server ρ τ σ)) = none ↔
    Permits.capacity < c.workers.toNat ∨ Permits.capacity < c.maxClients.toNat := by
  rw [start?, ite_eq_right_iff]
  simp only [reduceCtorEq, imp_false]
  rw [not_and_or, Nat.not_le, Nat.not_le]

/-- The greatest number of permits is that of a machine word without its last three bits. -/
example : Permits.capacity = (UInt64.size - 1) >>> 3 := by decide

/-- A configuration without defects asks for permits, for places, and for room for lines. -/
theorem pos_of_validate (h : c.validate = .ok ()) :
    0 < c.workers.toNat ∧ 0 < c.maxClients.toNat ∧ 0 < c.maxPipelined.toNat := by
  rw [Config.validate_eq_ok_iff] at h
  have hpos {n : UInt64} (hn : (n == 0) = false) : 0 < n.toNat := by
    rw [Nat.pos_iff_ne_zero]
    intro hzero
    obtain rfl : n = 0 := UInt64.toNat_inj.1 hzero
    cases hn
  exact ⟨hpos (h .zeroWorkers), hpos (h .zeroMaxClients), hpos (h .zeroMaxPipelined)⟩

/-! ### The first line of a client -/

/-- Where there is a place, the next client is accepted. -/
theorem exists_accept (hph : s.phase = .serving) (hplaces : 0 < s.places) :
    ∃ s', s.after? .connect = some s' ∧
      s'.client? (s.accepted + 1) = some (.start s.config.maxLineLength.toNat) ∧
      s'.config = s.config ∧ s'.output = s.output ∧ s'.system.tasks = s.system.tasks := by
  obtain ⟨s', h⟩ : ∃ s', s.after? .connect = some s' := ⟨_, if_pos hph⟩
  refine ⟨s', h, ?_⟩
  cases step_of_after? h with
  | accept _ _ hc _ ho hf ht =>
    rw [client?, hc, Table.get?_insert, if_pos rfl]
    exact ⟨rfl, hf, ho, ht⟩
  | turnAway _ hp => omega

omit [Remote ρ τ σ] in
theorem client?_receive (hc : s.client? id = some conn) (bytes : List UInt8) :
    (s.modifyClient id (·.receive bytes)).client? id = some (conn.receive bytes) := by
  have hmodify := Table.get?_modify s.clients id id (·.receive bytes)
  rw [if_pos rfl] at hmodify
  exact hmodify.trans (congrArg _ hc)

/-- Where there is room, the line that comes next is taken up. -/
theorem after?_read {text : String} {conn' : Connection} (hc : s.client? id = some conn)
    (hroom : conn.hasRoom s.config.maxPipelined.toNat = true)
    (hpull : conn.pull? = some (some text, conn')) :
    s.after? (.read id) = some { s with
      clients := s.clients.insert id (conn'.await s.system.tasks.length)
      system := s.system.begin (.submit text) } := by
  simp only [after?, read?, hc, hroom, hpull, if_true, Option.bind_eq_bind, Option.bind_some,
    Option.pure_def]

/-- **A client is accepted where there is a place, and its first line is taken up** by the next
task. -/
theorem exists_ask (hph : s.phase = .serving) (hplaces : 0 < s.places)
    (hroom : 0 < s.config.maxPipelined.toNat) (hfeed : lineFeed ∉ line)
    (hlen : line.length ≤ s.config.maxLineLength.toNat) :
    ∃ s' conn, Run s [.connect, .receive (s.accepted + 1) (line ++ [lineFeed]),
        .read (s.accepted + 1)] s' ∧
      s'.client? (s.accepted + 1) = some conn ∧ conn.inFlight = [s.system.tasks.length] ∧
      s'.output = s.output := by
  obtain ⟨s₁, h₁, hc₁, hconfig, houtput, htasks⟩ := exists_accept hph hplaces
  have hpull : ((Connection.start s.config.maxLineLength.toNat).receive
      (line ++ [lineFeed])).pull? = some (some (LineReader.lineText line),
        .start s.config.maxLineLength.toNat) := by
    have hnext := LineReader.next_of_line hfeed hlen
    simp [Connection.pull?, Connection.next, Connection.receive, Connection.start, hnext]
  have hhas : ((Connection.start s.config.maxLineLength.toNat).receive
      (line ++ [lineFeed])).hasRoom s₁.config.maxPipelined.toNat = true := by
    simpa [Connection.hasRoom, Connection.receive, Connection.start, hconfig] using hroom
  have h₃ := after?_read (client?_receive hc₁ (line ++ [lineFeed])) hhas hpull
  refine ⟨_, (Connection.start s.config.maxLineLength.toNat).await s₁.system.tasks.length,
    (((Run.nil s).snoc h₁).snoc rfl).snoc h₃, ?_, ?_, houtput⟩
  · exact (Table.get?_insert _ _ _ _).trans (if_pos rfl)
  · rw [htasks]
    rfl

/-- The answer to the first line in flight is written once there is one. -/
theorem after?_answer {r : Response} (hc : s.client? id = some conn)
    (hk : conn.inFlight.head? = some k) (hr : s.system.result? k = some (.answered r)) :
    s.after? (.answer id) = some { s with
      clients := s.clients.insert id conn.settle
      output := s.output ++ [(id, r)] } := by
  simp only [after?, answer?, hc, hk, hr, Option.bind_eq_bind, Option.bind_some, Option.pure_def]

/-- **The first line in flight of a client can come to its answer** if there are permits, in every
server that can come about. -/
theorem exists_answer {s₀ : Server ρ τ σ} (h₀ : start? c remote = some s₀) (hr : Run s₀ es s)
    (hworkers : 0 < c.workers.toNat) (hc : s.client? id = some conn)
    (hk : conn.inFlight.head? = some k) :
    ∃ es' s' r, (∀ e ∈ es', ∃ i, e = .advance i) ∧ Run s (es' ++ [.answer id]) s' ∧
      s'.output = s.output ++ [(id, r)] := by
  have hs := requesting_of_run h₀ hr ((stopping_of_run h₀ hr).early hc)
  have hthere := present_of_run h₀ hr hc (List.mem_of_mem_head? hk)
  obtain ⟨t, ht⟩ := Option.ne_none_iff_exists'.1 hthere
  -- Nobody stands still.
  have hfree (i : TaskId) : s.system.isStalled (fun _ => false) i = false := by
    rw [System.isStalled]
    cases s.system.url? i <;> rfl
  have hahead : s.system.ahead (fun _ => false) k = 0 := by
    rw [System.ahead, List.countP_eq_zero]
    intro i _
    rw [hfree i]
    exact Bool.false_ne_true
  obtain ⟨ticks, system, r, hsystem, hresult⟩ :=
    System.finishes hs ht (hfree k) fun _ => hahead ▸ hworkers
  obtain ⟨es', hes', hrun, -⟩ := run_of_goes (s := s) hs hsystem rfl
  have hanswer := after?_answer (s := { s with system }) hc hk hresult
  refine ⟨es', _, r, ?_, hrun.snoc hanswer, rfl⟩
  intro e he
  obtain ⟨i, rfl, -⟩ := hes' e he
  exact ⟨i, rfl⟩

/-- **A configuration without defects starts a server**, unless it asks for more permits or more
places than can be counted. A server that is started answers: whatever line its first client sends,
if it is not too long, the client is accepted, the line is taken up, and after some steps of tasks
the answer is written. -/
theorem started_unless_uncountable (h : c.validate = .ok ()) (remote : ρ) :
    ((start? c remote : Option (Server ρ τ σ)) = none ↔
      Permits.capacity < c.workers.toNat ∨ Permits.capacity < c.maxClients.toNat) ∧
    ∀ s₀ : Server ρ τ σ, start? c remote = some s₀ →
      ∀ line : List UInt8, lineFeed ∉ line → line.length ≤ c.maxLineLength.toNat →
        ∃ es s r, (∀ e ∈ es, ∃ i, e = .advance i) ∧
          Run s₀ ([.connect, .receive 1 (line ++ [lineFeed]), .read 1] ++ (es ++ [.answer 1])) s ∧
          s.answers 1 = [r] := by
  refine ⟨start?_eq_none_iff, fun s₀ h₀ line hfeed hlen => ?_⟩
  obtain ⟨hworkers, hplaces, hroom⟩ := pos_of_validate h
  have heq := eq_of_start? h₀
  obtain ⟨s, conn, hrun, hconn, hflight, houtput⟩ := exists_ask (s := s₀)
    (by rw [heq]) (by rwa [heq]) (by rwa [heq]) hfeed (by rwa [heq])
  have hfirst : s₀.accepted + 1 = 1 := by rw [heq]
  rw [hfirst] at hrun hconn
  obtain ⟨es, s', r, hes, hrun', hanswer⟩ :=
    exists_answer h₀ hrun hworkers hconn (by rw [hflight]; rfl)
  refine ⟨es, s', r, hes, hrun.trans hrun', ?_⟩
  rw [answers, hanswer, houtput, heq]
  rfl

/-- With as many permits as can be counted, and one place, a request is answered. -/
theorem started_unless_uncountable_most :
    ∃ s₀ : Server Registry Registry.Found Nat,
      start? { workers := 0x1FFFFFFFFFFFFFFF, maxClients := 1, maxPipelined := 1 } {} = some s₀ ∧
      ∃ es s r, (∀ e ∈ es, ∃ i, e = .advance i) ∧
        Run s₀ ([.connect, .receive 1 ("CLOSE v".toList.map Char.toUInt8 ++ [lineFeed]),
          .read 1] ++ (es ++ [.answer 1])) s ∧
        s.answers 1 = [r] := by
  let c : Config := { workers := 0x1FFFFFFFFFFFFFFF, maxClients := 1, maxPipelined := 1 }
  have hvalid : c.validate = .ok () := by decide
  obtain ⟨hnone, hanswers⟩ :=
    started_unless_uncountable (τ := Registry.Found) (σ := Nat) hvalid ({} : Registry)
  have hstarted : (start? c {} : Option (Server Registry Registry.Found Nat)) ≠ none := by
    intro h
    exact absurd (hnone.1 h) (by decide)
  obtain ⟨s₀, h₀⟩ := Option.ne_none_iff_exists'.1 hstarted
  exact ⟨s₀, h₀, hanswers s₀ h₀ _ (by decide) (by decide)⟩

/-- One permit more than can be counted, from the command line: the configuration has no defect, and
no server is started. -/
theorem valid_but_not_started :
    CommandLine.load (fun _ => .error .missing) ["gateway", "--workers", "2305843009213693952"] =
        .ok { workers := 0x2000000000000000 } ∧
      (start? { workers := 0x2000000000000000 } {} :
        Option (Server Registry Registry.Found Nat)) = none ∧
      ¬ ∀ c : Config, c.validate = .ok () →
        ∃ s₀ : Server Registry Registry.Found Nat, start? c {} = some s₀ := by
  have hvalid : ({ workers := 0x2000000000000000 } : Config).validate = .ok () := by decide
  have hnone : (start? { workers := 0x2000000000000000 } {} :
      Option (Server Registry Registry.Found Nat)) = none := start?_eq_none_iff.2 (by decide)
  refine ⟨by decide +kernel, hnone, ?_⟩
  intro h
  obtain ⟨s₀, h₀⟩ := h _ hvalid
  rw [hnone] at h₀
  cases h₀

end Server

end AttributeGateway
