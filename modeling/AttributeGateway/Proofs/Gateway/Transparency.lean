import AttributeGateway.Proofs.Gateway.Sources

/-!
# Caching is transparent

When nothing is under way, no lock is held, a cached holder is not closed, and the session of a
connected one is open. A request that is then answered with nothing else going on gets what the
endpoint under its URL has, unless the cached holder is connected to an endpoint that was registered
before.

* `Gateway.Settled` — a gateway whose holders nobody uses, and of which the cached ones are not
  closed; `Settled.available_eq_ok` says which endpoint a request reads then.
* `System.caching_is_transparent` — after any run that has come to rest, a request is answered as by
  a new gateway over the same endpoints.
-/

namespace AttributeGateway

namespace Gateway

variable {g : Gateway Registry Nat} {url : String} {i : Nat} {e : Endpoint}

/-- A gateway whose holders nobody uses: the cached ones are not closed, and the sessions of
connected ones are open. -/
structure Settled (g : Gateway Registry Nat) : Prop extends Resting g where
  /-- No cached holder is closed. -/
  live : ∀ {u h}, g.cached? u = some h → g.link h ≠ .closed

/-- The session of a cached holder is one with the endpoint that is registered under the URL. -/
def UpToDate (g : Gateway Registry Nat) (url : String) : Prop :=
  ∀ h x session, g.cached? url = some h → g.link h = .connected x →
    g.remote.sessions[x]? = some session → g.remote.directory.get? url = some session.endpoint

/-- If the cached holder is not connected to an endpoint that was registered before, a request reads
the endpoint that is registered and does not refuse. -/
theorem Settled.available_eq_ok (hs : g.Settled) (hu : g.UpToDate url)
    (hd : g.remote.directory.get? url = some i) (he : g.remote.endpoints[i]? = some e)
    (ha : e.refusing = false) : g.available url = .ok e := by
  have hat : g.remote.endpointAt i = e := by rw [Registry.endpointAt, he, Option.getD_some]
  have hregistered : g.remote.available url = .ok e :=
    Registry.available_eq_ok_iff.2 ⟨i, hd, hat, ha⟩
  cases hc : g.cached? url with
  | none =>
    rw [← hregistered]
    exact available_of_disconnected fun h hc' => by cases hc.symm.trans hc'
  | some h =>
    cases hk : g.link h with
    | disconnected =>
      rw [← hregistered]
      refine available_of_disconnected fun h' hc' => ?_
      cases hc.symm.trans hc'
      exact hk
    | closed => exact absurd hk (hs.live hc)
    | connected x =>
      obtain ⟨j, u, hx⟩ := hs.opened hk
      obtain rfl : i = j := Option.some.inj (hd.symm.trans (hu h x _ hc hk hx))
      rw [available_of_connected hc hk hx, hat]

end Gateway

namespace System

variable {s : System Registry Registry.Found Nat} {es : List (Event Registry Nat)}
  {remote : Registry} {workers : Permits} {line : String} {get : Get} {i : Nat} {e : Endpoint}
  {r : Response}

/-! ### Runs that have come to rest -/

/-- Every task has ended, or has been dropped. -/
def AtRest (s : System Registry Registry.Found Nat) : Prop :=
  s.tasks.all (fun t => t.all fun t => t.activity.result?.isSome) = true

instance (s : System Registry Registry.Found Nat) : Decidable s.AtRest :=
  inferInstanceAs (Decidable (_ = true))

/-- Events as they come from clients, from those who look after the cache and from endpoints:
holders and sessions that they name have been handed out, holders are closed by way of the cache,
endpoints change without their sessions, and closing a session is not interrupted. -/
def Ordinary (s : System Registry Registry.Found Nat) (e : Event Registry Nat) : Prop :=
  Undisturbed s e ∧ e.ThroughCache

/-- At rest no task has an access under way. -/
theorem AtRest.access? (hs : AtRest s) (id : TaskId) : s.access? id = none := by
  rw [System.access?, task?]
  cases ht : (s.tasks[id]?).join with
  | none => rfl
  | some t =>
    have hdone := List.all_eq_true.1 hs _ (List.mem_of_getElem? (Option.join_eq_some_iff.1 ht))
    obtain ⟨act, employed⟩ := t
    cases act with
    | finished r => rfl
    | _ => cases hdone

/-- At rest nobody has or wants a lock. -/
theorem AtRest.free (hs : AtRest s) (hd : Disciplined s) (h : HolderId) :
    s.gateway.lock h = {} := by
  -- Whoever has or wants a lock has an access under way.
  have hnone : (s.gateway.lock h).entries = [] := by
    refine List.eq_nil_iff_forall_not_mem.2 fun ⟨id, m⟩ he => ?_
    obtain ⟨a, ha, -⟩ := hd.entry he
    rw [hs.access?] at ha
    cases ha
  obtain ⟨hheld, hqueue⟩ := List.append_eq_nil_iff.1 hnone
  cases hl : s.gateway.lock h
  rw [hl] at hheld hqueue
  simp only at hheld hqueue
  rw [hheld, hqueue]

/-- A run that has come to rest leaves a gateway whose holders nobody uses. -/
theorem settled_of_run (hr : RunWhere Ordinary (start remote workers) es s) (hs : AtRest s) :
    s.gateway.Settled := by
  have hkept := kept_of_run (hr.mono fun _ _ h => h.1)
  have hcurrent := current_of_run (hr.mono fun _ _ h => ⟨h.1.1, h.2⟩)
  exact ⟨⟨hs.free hkept.disciplined, hcurrent.keyed, hkept.owned.opened⟩, hcurrent.live⟩

/-- A request is answered by what its endpoint has. -/
theorem answersAlone_iff (hs : s.gateway.Settled) (hp : Command.parse line = .ok (.get get))
    (hd : s.gateway.remote.directory.get? get.endpoint = some i)
    (he : s.gateway.remote.endpoints[i]? = some e) (ha : e.refusing = false)
    (hu : s.gateway.UpToDate get.endpoint) :
    s.AnswersAlone line r ↔ r = e.reply get := by
  obtain ⟨g', hg', -⟩ := Activity.goes_get s.tasks.length hs.toResting hp
  have hanswer := answersAlone_of_goes hg'
  rw [Gateway.reply, hs.available_eq_ok hu hd he ha] at hanswer
  exact ⟨fun h => h.unique hanswer, fun h => h ▸ hanswer⟩

/-- **Caching is transparent**: after any run over endpoints in memory that has come to rest, with
whatever requests, changes of endpoints and operations on the cache, a request for an endpoint that
is registered and does not refuse has exactly one answer, if the cached holder is not connected to
an endpoint that was registered before; and a new gateway over the same endpoints, with nothing in
its cache, answers it the same. The answer is what the endpoint has. -/
theorem caching_is_transparent (hr : RunWhere Ordinary (start remote workers) es s)
    (hs : AtRest s) (hp : Command.parse line = .ok (.get get))
    (hd : s.gateway.remote.directory.get? get.endpoint = some i)
    (he : s.gateway.remote.endpoints[i]? = some e) (ha : e.refusing = false)
    (hu : s.gateway.UpToDate get.endpoint) :
    (∀ r, s.AnswersAlone line r ↔ r = e.reply get) ∧
      ∀ workers' r,
        (start s.gateway.remote workers' : System Registry Registry.Found Nat).AnswersAlone line r ↔
          r = e.reply get := by
  refine ⟨fun r => answersAlone_iff (settled_of_run hr hs) hp hd he ha hu, fun workers' r => ?_⟩
  refine answersAlone_iff (settled_of_run (.nil _) rfl) hp hd he ha ?_
  intro h x session hcached
  cases hcached

/-- A request has been answered; then the attribute gets another value. -/
def changed : List (Event Registry Nat) :=
  [.alter fun r => (r.register "u").modify "u" (·.setAttribute "b" "a" (.text "old")),
    .begin (.answer "GET u %s b a")] ++ List.replicate 13 (.advance 0) ++
  [.alter fun r => r.modify "u" (·.setAttribute "b" "a" (.text "new"))]

/-- The next request is answered by the new value, through the session that is there as through a
new one. -/
theorem caching_is_transparent_changed :
    (∃ h x, (inMemory.behind changed).gateway.cached? "u" = some h ∧
      (inMemory.behind changed).gateway.link h = .connected x) ∧
    (∀ r, (inMemory.behind changed).AnswersAlone "GET u [%s] b a b none" r ↔
      r = .ok ["[new]", notAvailable]) ∧
    ∀ workers r, (start (inMemory.behind changed).gateway.remote workers :
      System Registry Registry.Found Nat).AnswersAlone "GET u [%s] b a b none" r ↔
        r = .ok ["[new]", notAvailable] := by
  have hr : Run inMemory changed (inMemory.behind changed) := run_behind (by decide +kernel)
  have hP : RunWhere Ordinary inMemory changed (inMemory.behind changed) := by
    refine hr.runWhere fun u e he => ?_
    simp only [changed, List.mem_append, List.mem_cons, List.mem_replicate, List.not_mem_nil,
      or_false] at he
    rcases he with ((rfl | rfl) | ⟨-, rfl⟩) | rfl
    · exact ⟨⟨trivial, (Registry.sessions_modify ..).trans (Registry.sessions_register ..)⟩,
        trivial⟩
    · exact ⟨⟨trivial, trivial⟩, trivial⟩
    · exact ⟨⟨trivial, trivial⟩, trivial⟩
    · exact ⟨⟨trivial, Registry.sessions_modify ..⟩, trivial⟩
  have hsome : ((inMemory.behind changed).gateway.remote.endpoints[0]?).isSome := by decide +kernel
  have hreply : (Option.get _ hsome).reply
      ⟨"u", .ofToken "[%s]", [.ofTexts "b" "a", .ofTexts "b" "none"]⟩ =
        .ok ["[new]", notAvailable] := by with_unfolding_all rfl
  have hcached : (inMemory.behind changed).gateway.cached? "u" = some 0 := by decide +kernel
  have hlink : (inMemory.behind changed).gateway.link 0 = .connected 0 := by decide +kernel
  have hsessions : (inMemory.behind changed).gateway.remote.sessions[0]? =
      some ⟨0, "u", false⟩ := by decide +kernel
  have hd : (inMemory.behind changed).gateway.remote.directory.get? "u" = some 0 := by
    decide +kernel
  have hu : (inMemory.behind changed).gateway.UpToDate "u" := by
    intro h x session hc hk hx
    rw [hcached] at hc
    cases hc
    rw [hlink] at hk
    cases hk
    rw [hsessions] at hx
    cases hx
    exact hd
  have hparse : Command.parse "GET u [%s] b a b none" = .ok (.get
      ⟨"u", .ofToken "[%s]", [.ofTexts "b" "a", .ofTexts "b" "none"]⟩) := by with_unfolding_all rfl
  have hboth := caching_is_transparent hP (by decide +kernel) hparse hd (Option.some_get hsome).symm
    (by with_unfolding_all rfl) hu
  rw [hreply] at hboth
  exact ⟨⟨0, 0, hcached, hlink⟩, hboth⟩

end System

end AttributeGateway
