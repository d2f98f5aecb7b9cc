import AttributeGateway.Proofs.Gateway.Employment
import AttributeGateway.Proofs.Server.Stopping

/-!
# What a server takes on at a time

A server has so many places for clients, a client may have so many requests in flight, and so many
requests may execute. A place is taken when a client is accepted and given back when it goes or is
cut off; a permit is taken before a line is taken up and given back when its task comes to a result
or is dropped. Nothing else takes or gives any, so each of them is free or belongs to somebody.

* `Step.lift` — what the events of a system preserve, the events of a server preserve.
* `Occupies` — what an event does to the connections and the places; `Step.occupies`.
* `Seated` — places, clients and requests in flight; `Seated.snoc`.
* `executing` — the requests that execute, across all connections.
* `capacity_kept` — in every run, places and permits are neither lost nor made, and no bound is
  passed.
-/

namespace AttributeGateway

namespace Server

variable {ρ τ σ : Type} [Remote ρ τ σ] {s s' u : Server ρ τ σ} {id : ClientId} {k : TaskId}
  {c c' : Connection} {e : Event ρ} {es : List (Event ρ)}

/-! ### What holds of the system -/

/-- What the events of a system preserve, and what does not depend on what has been counted, the
events of a server preserve. Tasks that begin answer lines, unless the cache is to be emptied. -/
theorem Step.lift {I : System ρ τ σ → Prop} (h : Step s e s')
    (hI : ∀ {u a u'}, I u → a.isPlain →
      (e ≠ .drain → ∀ op, a = .begin op → ∃ line, op = .submit line) →
      u.after? a = some u' → I u')
    (hcount : ∀ {u u'}, I u → u.gateway.Counts u'.gateway →
      u'.gateway.workers = u.gateway.workers → u'.tasks = u.tasks → I u')
    (hs : I s.system) : I s'.system := by
  cases h with
  | accept _ _ _ _ _ _ ht hw hg => exact hcount hs hg hw ht
  | turnAway | receive | endInput | failInput | stopReading | answer | stop | finish => exact hs
  | leave => exact hcount hs ⟨rfl, rfl, rfl⟩ rfl rfl
  | ask =>
    refine hI (a := .begin (.submit _)) hs rfl (fun _ op hop => ?_) rfl
    cases hop
    exact ⟨_, rfl⟩
  | drain => exact hI (a := .begin .drain) hs rfl (fun hne => absurd rfl hne) rfl
  | @cut id c hc =>
    have hdropped : I (c.inFlight.foldl System.abandon s.system) :=
      List.foldlRecOn _ _ hs fun u hu k _ => hI (a := .abandon k) hu rfl nofun rfl
    exact hcount hdropped ⟨rfl, rfl, rfl⟩ rfl rfl
  | @advance k system h => exact hI (a := .advance k) hs rfl nofun h
  | alter change => exact hI (a := .alter change) hs rfl nofun rfl
  | withdraw => exact hI (a := .withdraw) hs rfl nofun rfl

/-- Permits are kept, and those who have them are employed. -/
structure Manned (s : Server ρ τ σ) : Prop where
  staffed : System.Staffed s.config.workers.toNat s.system
  employed : System.Employed s.system

theorem Manned.step (hs : Manned s) (h : Step s e s') : Manned s' := by
  have hboth := h.lift (I := fun u => System.Staffed s.config.workers.toNat u ∧ System.Employed u)
    (fun hu _ _ he => ⟨hu.1.after? he, hu.2.after? hu.1 he⟩) (fun {u u'} hu _ hw ht => ?_)
    ⟨hs.staffed, hs.employed⟩
  · rw [← h.ages.config] at hboth
    exact ⟨hboth.1, hboth.2⟩
  · have htask := System.task?_of_tasks ht
    exact ⟨hu.1.of_entries (by rw [hw]; exact hu.1.sound) (by rw [hw]) fun k => .inl (htask k).symm,
      hu.2.of_workers hw fun {k t} hk => .inl ((htask k).symm.trans hk)⟩

theorem manned_of_run {config : Config} {remote : ρ} {s₀ : Server ρ τ σ}
    (h₀ : start? config remote = some s₀) (hr : Run s₀ es s) : Manned s := by
  refine hr.preserves (fun hs h => hs.step h) ?_
  obtain rfl := eq_of_start? h₀
  exact ⟨System.staffed_start _ _, System.employed_start _ _⟩

/-! ### Connections and places -/

/-- Whether a client goes or is cut off. -/
def Event.isEnd : Event ρ → Bool
  | .leave _ | .cut _ => true
  | _ => false

/-- How many accepted connections have ended in the course of events. -/
def ended (es : List (Event ρ)) : Nat := es.countP Event.isEnd

/-- The tasks for the lines in flight, across all connections. -/
def inFlight (s : Server ρ τ σ) : List TaskId := s.clients.entries.flatMap fun e => e.2.inFlight

/-- The tasks for the lines in flight of the clients but one. -/
def inFlightBut (s : Server ρ τ σ) (id : ClientId) : List TaskId :=
  (s.clients.erase id).entries.flatMap fun e => e.2.inFlight

/-- What an event does to the connections and the places. -/
inductive Occupies (s : Server ρ τ σ) : Event ρ → Server ρ τ σ → Prop where
  /-- Nothing. -/
  | nothing {e : Event ρ} {s' : Server ρ τ σ} (he : e.isEnd = false)
      (hc : s'.clients = s.clients) (hp : s'.places = s.places) (ha : s'.accepted = s.accepted) :
    Occupies s e s'
  /-- A client is accepted. -/
  | accept {s' : Server ρ τ σ} {c : Connection}
      (hc : s'.clients = s.clients.insert (s.accepted + 1) c) (hf : c.inFlight = [])
      (hp : s.places = s'.places + 1) (ha : s'.accepted = s.accepted + 1) :
    Occupies s .connect s'
  /-- A connection goes on with what is in flight, or is done with some of it. -/
  | goOn {e : Event ρ} {s' : Server ρ τ σ} {id : ClientId} {c c' : Connection}
      (he : e.isEnd = false) (hc : s.client? id = some c)
      (hc' : s'.clients = s.clients.insert id c') (hf : c'.inFlight.Sublist c.inFlight)
      (hp : s'.places = s.places) (ha : s'.accepted = s.accepted) : Occupies s e s'
  /-- A line is taken up by the next task. -/
  | ask {s' : Server ρ τ σ} {id : ClientId} {c c' : Connection} (hc : s.client? id = some c)
      (hc' : s'.clients = s.clients.insert id c')
      (hf : c'.inFlight = c.inFlight ++ [s.system.tasks.length])
      (hr : c.inFlight.length < s.config.maxPipelined.toNat)
      (ht : s'.system.tasks.length = s.system.tasks.length + 1) (hp : s'.places = s.places)
      (ha : s'.accepted = s.accepted) : Occupies s (.read id) s'
  /-- A client goes or is cut off. -/
  | end {e : Event ρ} {s' : Server ρ τ σ} {id : ClientId} {c : Connection} (he : e.isEnd = true)
      (hc : s.client? id = some c) (hc' : s'.clients = s.clients.erase id)
      (hp : s'.places = s.places + 1) (ha : s'.accepted = s.accepted) : Occupies s e s'

omit [Remote ρ τ σ] in
theorem occupies_modifyClient {f : Connection → Connection} (he : e.isEnd = false)
    (hf : ∀ c, (f c).inFlight = c.inFlight) : Occupies s e (s.modifyClient id f) := by
  cases hc : s.client? id with
  | none =>
    refine .nothing he ?_ rfl rfl
    rw [client?] at hc
    rw [modifyClient, Table.modify, hc]
  | some c =>
    refine .goOn he hc ?_ (by rw [hf c]) rfl rfl
    rw [client?] at hc
    rw [modifyClient, Table.modify, hc]

theorem inFlight_receive (c : Connection) (bytes : List UInt8) :
    (c.receive bytes).inFlight = c.inFlight := by
  rw [Connection.receive]
  split <;> rfl

/-- **An event does nothing else** to the connections and the places. -/
theorem Step.occupies (h : Step s e s') : Occupies s e s' := by
  cases h with
  | accept _ hp hc ha => exact .accept hc rfl hp ha
  | turnAway | advance | alter | withdraw | stop | drain | finish => exact .nothing rfl rfl rfl rfl
  | receive id bytes => exact occupies_modifyClient rfl fun c => inFlight_receive c bytes
  | endInput | failInput => exact occupies_modifyClient rfl fun _ => rfl
  | ask hc hr hp =>
    rw [Connection.hasRoom, Bool.and_eq_true, decide_eq_true_eq] at hr
    exact .ask hc rfl (by rw [Connection.await, inFlight_pull hp]) hr.2 (by simp [System.begin]) rfl
      rfl
  | stopReading hc hr hp => exact .goOn rfl hc rfl (by rw [inFlight_pull hp]) rfl rfl
  | answer hc => exact .goOn rfl hc rfl (List.tail_sublist _) rfl rfl
  | leave hc => exact .end rfl hc rfl rfl rfl
  | cut hc => exact .end rfl hc rfl rfl rfl

/-! ### Places -/

omit [Remote ρ τ σ] in
theorem inFlight_perm (hc : s.client? id = some c) :
    s.inFlight.Perm (c.inFlight ++ s.inFlightBut id) := (Table.entries_perm hc).flatMap_right _

omit [Remote ρ τ σ] in
theorem inFlight_perm_of_insert (hc : s'.clients = s.clients.insert id c) :
    s'.inFlight.Perm (c.inFlight ++ s.inFlightBut id) := by
  rw [inFlight, hc]
  exact (Table.entries_insert_perm _ _ _).flatMap_right _

omit [Remote ρ τ σ] in
theorem inFlight_of_erase (hc : s'.clients = s.clients.erase id) :
    s'.inFlight = s.inFlightBut id := by
  rw [inFlight, hc, inFlightBut]

/-- Places, clients and what is in flight, behind the events of a run. -/
structure Seated (s : Server ρ τ σ) (es : List (Event ρ)) : Prop where
  /-- Each place is free or taken by a client. -/
  places : s.places + s.clients.size = s.config.maxClients.toNat
  /-- Who has been accepted is there, or its connection has ended. -/
  accepted : s.clients.size + ended es = s.accepted
  /-- No client has more in flight than it may have. -/
  room : ∀ {id c}, s.client? id = some c → c.inFlight.length ≤ s.config.maxPipelined.toNat
  /-- Every line in flight has a task of its own. -/
  once : s.inFlight.Nodup
  /-- Tasks that are in flight have begun. -/
  begun : ∀ {k}, k ∈ s.inFlight → k < s.system.tasks.length

omit [Remote ρ τ σ] in
theorem ended_snoc (es : List (Event ρ)) (e : Event ρ) :
    ended (es ++ [e]) = ended es + if e.isEnd then 1 else 0 := by
  rw [ended, List.countP_append, List.countP_singleton, ended]

omit [Remote ρ τ σ] in
/-- Replacing a connection by one with no more in flight than allowed leaves the clients seated. -/
theorem Seated.replace (hs : Seated s es) (hages : Ages s s') (he : e.isEnd = false)
    (hc : s.client? id = some c) (hc' : s'.clients = s.clients.insert id c')
    (hroom : c'.inFlight.length ≤ s.config.maxPipelined.toNat) (hp : s'.places = s.places)
    (ha : s'.accepted = s.accepted) (honce : s'.inFlight.Nodup)
    (hbegun : ∀ k, k ∈ s'.inFlight → k < s'.system.tasks.length) : Seated s' (es ++ [e]) := by
  have hsize : s'.clients.size = s.clients.size := by
    rw [hc']
    exact (Table.entries_insert_perm _ _ _).length_eq.trans (Table.entries_perm hc).length_eq.symm
  refine ⟨?_, ?_, fun {id' c₁} hc₁ => ?_, honce, fun {k} => hbegun k⟩
  · rw [hp, hsize, hages.config]
    exact hs.places
  · rw [hsize, ha, ended_snoc, he]
    exact hs.accepted
  · rw [hages.config]
    rw [client?, hc', Table.get?_insert] at hc₁
    split at hc₁
    · cases hc₁
      exact hroom
    · exact hs.room hc₁

omit [Remote ρ τ σ] in
/-- A client that is accepted takes a place, and has nothing in flight. -/
theorem Seated.accept (hs : Seated s es) (hf : Fresh s) (hages : Ages s s')
    (hc : s'.clients = s.clients.insert (s.accepted + 1) c) (hflight : c.inFlight = [])
    (hp : s.places = s'.places + 1) (ha : s'.accepted = s.accepted + 1) :
    Seated s' (es ++ [.connect]) := by
  have hnone : s.clients.get? (s.accepted + 1) = none := (hf _ (Nat.lt_succ_self _)).1
  have hperm := Table.entries_insert_perm s.clients (s.accepted + 1) c
  rw [Table.erase_of_get? hnone, ← hc] at hperm
  have hall : s'.inFlight.Perm s.inFlight := by
    have hflat := hperm.flatMap_right fun e => e.2.inFlight
    rwa [List.flatMap_cons, hflight, List.nil_append] at hflat
  have hsize : s'.clients.size = s.clients.size + 1 := hperm.length_eq
  refine ⟨?_, ?_, fun {id c₁} hc₁ => ?_, hall.nodup_iff.2 hs.once, fun {k} hk =>
    Nat.lt_of_lt_of_le (hs.begun (hall.mem_iff.1 hk)) hages.tasks⟩
  · rw [hsize, hages.config, ← hs.places, hp]
    omega
  · rw [hsize, ha, ended_snoc, ← hs.accepted, show (Event.connect : Event ρ).isEnd = false from rfl]
    simp only [Bool.false_eq_true, if_false]
    omega
  · rw [client?, hc, Table.get?_insert] at hc₁
    rw [hages.config]
    split at hc₁
    · cases hc₁
      rw [hflight]
      exact Nat.zero_le _
    · exact hs.room hc₁

omit [Remote ρ τ σ] in
/-- A client that goes or is cut off gives its place back. -/
theorem Seated.erase (hs : Seated s es) (hages : Ages s s') (he : e.isEnd = true)
    (hc : s.client? id = some c) (hc' : s'.clients = s.clients.erase id)
    (hp : s'.places = s.places + 1) (ha : s'.accepted = s.accepted) : Seated s' (es ++ [e]) := by
  have hperm := inFlight_perm hc
  have hsub : s'.inFlight.Sublist (c.inFlight ++ s.inFlightBut id) := by
    rw [inFlight_of_erase hc']
    exact List.sublist_append_right _ _
  have hsize : s.clients.size = s'.clients.size + 1 := by
    rw [hc']
    exact (Table.entries_perm hc).length_eq
  refine ⟨?_, ?_, fun {id' c₁} hc₁ => ?_, hsub.nodup (hperm.nodup_iff.1 hs.once), fun {k} hk =>
    Nat.lt_of_lt_of_le (hs.begun (hperm.mem_iff.2 (hsub.subset hk))) hages.tasks⟩
  · rw [hages.config, ← hs.places, hp, hsize]
    omega
  · rw [ended_snoc, he, ha, ← hs.accepted, hsize, if_pos rfl]
    omega
  · rw [client?, hc', Table.get?_erase] at hc₁
    rw [hages.config]
    split at hc₁
    · cases hc₁
    · exact hs.room hc₁

/-- **Every event leaves the clients seated.** -/
theorem Seated.snoc (hs : Seated s es) (hf : Fresh s) (h : Step s e s') :
    Seated s' (es ++ [e]) := by
  have hages := h.ages
  have hbegun {k : TaskId} (hk : k ∈ s.inFlight) : k < s'.system.tasks.length :=
    Nat.lt_of_lt_of_le (hs.begun hk) hages.tasks
  cases h.occupies with
  | nothing he hc hp ha =>
    have hflight : s'.inFlight = s.inFlight := by rw [inFlight, hc, inFlight]
    refine ⟨?_, ?_, fun {id c} hc₁ => ?_, by rw [hflight]; exact hs.once, fun {k} hk => ?_⟩
    · rw [hc, hp, hages.config]
      exact hs.places
    · rw [hc, ha, ended_snoc, he]
      exact hs.accepted
    · rw [client?, hc] at hc₁
      rw [hages.config]
      exact hs.room hc₁
    · rw [hflight] at hk
      exact hbegun hk
  | accept hc hflight hp ha => exact hs.accept hf hages hc hflight hp ha
  | @goOn e s' id c c' he hc hc' hf' hp ha =>
    have hperm := inFlight_perm hc
    have hperm' := inFlight_perm_of_insert hc'
    have hsub := hf'.append (List.Sublist.refl (s.inFlightBut id))
    refine hs.replace hages he hc hc' (hf'.length_le.trans (hs.room hc)) hp ha ?_ fun k hk => ?_
    · exact hperm'.nodup_iff.2 (hsub.nodup (hperm.nodup_iff.1 hs.once))
    · exact hbegun (hperm.mem_iff.2 (hsub.subset (hperm'.mem_iff.1 hk)))
  | @ask _ id c c' hc hc' hf' hr ht hp ha =>
    -- In flight is what was, and the next task.
    have hperm : s'.inFlight.Perm (s.system.tasks.length :: s.inFlight) := by
      refine (inFlight_perm_of_insert hc').trans ?_
      rw [hf', List.append_assoc]
      exact List.perm_middle.trans ((inFlight_perm hc).symm.cons _)
    have hroom : c'.inFlight.length ≤ s.config.maxPipelined.toNat := by
      rw [hf', List.length_append]
      exact hr
    refine hs.replace hages rfl hc hc' hroom hp ha ?_ fun k hk => ?_
    · refine hperm.nodup_iff.2 (List.nodup_cons.2 ⟨fun hk => ?_, hs.once⟩)
      exact absurd (hs.begun hk) (Nat.lt_irrefl _)
    · rcases List.mem_cons.1 (hperm.mem_iff.1 hk) with rfl | hk
      · rw [ht]
        exact Nat.lt_succ_self _
      · exact hbegun hk
  | «end» he hc hc' hp ha => exact hs.erase hages he hc hc' hp ha

theorem seated_of_run {config : Config} {remote : ρ} {s₀ : Server ρ τ σ}
    (h₀ : start? config remote = some s₀) (hr : Run s₀ es s) : Seated s es := by
  induction hr with
  | nil =>
    obtain rfl := eq_of_start? h₀
    exact ⟨rfl, rfl, fun {id c} (hc : none = some c) => (Option.some_ne_none c hc.symm).elim,
      List.nodup_nil, fun {k} hk => absurd hk List.not_mem_nil⟩
  | snoc hr he ih => exact ih.snoc (fresh_of_run h₀ hr) (step_of_after? he)

/-! ### Requests that execute -/

/-- The requests that execute, across all connections. -/
def executing (s : Server ρ τ σ) : List TaskId := s.inFlight.filter s.system.executes

omit [Remote ρ τ σ] in
/-- Who has a permit answers a line of a client. -/
theorem mem_inFlight_of_held (hm : Manned s) (hs : Stopping s)
    (hk : k ∈ s.system.gateway.workers.held) : k ∈ s.inFlight := by
  obtain ⟨t, ht, he⟩ := hm.staffed.engaged (List.mem_append_left _ hk)
  rcases hs.flying k t ht he.unfinished with ⟨id, c, hc, hflight⟩ | hph
  · exact (inFlight_perm hc).mem_iff.2 (List.mem_append_left _ hflight)
  · -- The task that empties the cache has no permit.
    obtain ⟨t₁, ht₁, hempties⟩ := hs.draining hph
    obtain rfl := Option.some.inj (ht.symm.trans ht₁)
    exfalso
    rcases he.permit with hemployed | ⟨line, hq⟩
    · obtain ⟨-, words, hwords⟩ := hm.employed.hired ht hemployed
      have hun := he.unfinished
      generalize t.activity = act at hempties hwords hun
      cases hwords with
      | beginning | requesting | returning => exact hempties
      | answered => cases hun
    · rw [hq] at hempties
      exact hempties

omit [Remote ρ τ σ] in
/-- Those who have the permits are the requests that execute. -/
theorem executing_perm (hm : Manned s) (hs : Stopping s) (hseated : Seated s es) :
    s.executing.Perm s.system.gateway.workers.held := by
  have hnodup := hm.employed.once
  rw [Permits.entries] at hnodup
  rw [executing,
    List.perm_ext_iff_of_nodup (hseated.once.filter _) (List.Nodup.of_append_left hnodup)]
  intro k
  rw [List.mem_filter, System.executes_iff_mem_held hm.employed hm.staffed]
  exact ⟨fun hk => hk.2, fun hk => ⟨mem_inFlight_of_held hm hs hk, hk⟩⟩

/-- **A server never takes on more than it may, and no place and no permit gets lost**, in whatever
order clients come and go, lines arrive, tasks come to their results, and clients are cut off. There
are never more clients than places, no client has more requests in flight than it may have, and no
more requests execute than there are permits. Each place is free or taken by an accepted connection
that has not ended, each permit is free or that of a request that executes. So a client is turned
away only when as many accepted connections as there are places have not ended. -/
theorem capacity_kept {config : Config} {remote : ρ} {s₀ : Server ρ τ σ}
    (h₀ : start? config remote = some s₀) (hr : Run s₀ es s) :
    s.clients.size ≤ config.maxClients.toNat ∧
    (∀ id c, s.client? id = some c → c.inFlight.length ≤ config.maxPipelined.toNat) ∧
    s.executing.length ≤ config.workers.toNat ∧
    s.clients.size + ended es = s.accepted ∧
    s.places + (s.accepted - ended es) = config.maxClients.toNat ∧
    s.system.gateway.workers.free + s.executing.length = config.workers.toNat ∧
    (s.connect.1 = none → s.accepted - ended es = config.maxClients.toNat) := by
  have hconfig : s.config = config := by
    obtain rfl := eq_of_start? h₀
    exact hr.ages.config
  subst hconfig
  have hseated := seated_of_run h₀ hr
  have hm := manned_of_run h₀ hr
  have hexecuting := (executing_perm hm (stopping_of_run h₀ hr) hseated).length_eq
  have hsound := hm.staffed.sound.total
  have hplaces := hseated.places
  have haccepted := hseated.accepted
  refine ⟨by omega, fun id c hc => hseated.room hc, by omega, haccepted, by omega, by omega, ?_⟩
  intro hnone
  have hfull : s.places = 0 := by
    rw [connect] at hnone
    split at hnone
    · assumption
    · cases hnone
  omega

/-- A server with one place and one permit. -/
def narrow : Server Registry Registry.Found Nat where
  config := { workers := 1, maxClients := 1 }
  system := { gateway := { remote := {}, workers := ⟨1, [], [], false⟩ } }
  places := 1

/-- A client sends two lines; the task for the first one gets the permit. Another client is turned
away. The first one is cut off, and a third one gets its place and the permit. -/
def replaced : List (Event Registry) :=
  [.connect, .receive 1 ("CLOSE u\nCLOSE u\n".toList.map Char.toUInt8), .read 1, .read 1,
    .advance 0, .advance 1, .connect, .cut 1,
    .connect, .receive 2 ("CLOSE u\n".toList.map Char.toUInt8), .read 2, .advance 2]

theorem capacity_kept_replaced :
    (narrow.behind replaced).executing = [2] ∧
      (narrow.behind replaced).system.gateway.workers.free = 0 ∧
      (narrow.behind replaced).accepted - ended replaced = 1 := by
  have h₀ : start? narrow.config {} = some narrow := by
    rw [start?, if_pos (by decide)]
    rfl
  have hr : Run narrow replaced (narrow.behind replaced) := run_behind (by decide +kernel)
  have hexecuting : (narrow.behind replaced).executing = [2] := by decide +kernel
  have hfull : (narrow.behind replaced).connect.1 = none := by decide +kernel
  obtain ⟨-, -, -, -, -, hpermits, hturned⟩ := capacity_kept h₀ hr
  refine ⟨hexecuting, ?_, hturned hfull⟩
  rw [hexecuting] at hpermits
  exact Nat.succ.inj hpermits

end Server

end AttributeGateway
