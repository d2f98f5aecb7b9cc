import AttributeGateway.Proofs.Gateway.Alone

/-!
# Requests through a connected holder

A request to read attributes that finds the holder of its endpoint connected, with nothing else
going on, asks the remote side for one attribute after the other, through the same session. For each
query it gathers a line, until it has one for every query or meets a fault that concerns more than
one item. In the first case it answers with the lines and leaves the holder connected, in the second
it answers with an error and drops the connection.

* `Path.follow`, `Query.found`, `Template.lineFor`, `Get.gather` — what a request finds for a query,
  the line that it makes of it, and what it gathers for all its queries.
* `Gateway.Connected`, `Gateway.Dropped`, `Gateway.LeftBy` — the holder of a URL before a request,
  and behind it.
* `Activity.goes_found`, `Activity.goes_gather` — what a request does for one query, and for all.
* `System.run_connected` — the run from a request line to its answer.
-/

namespace AttributeGateway

variable {ρ τ σ : Type} [Remote ρ τ σ]

/-! ### What a request gathers -/

/-- What a path leads to, by what has been read of its attribute. -/
def Path.follow (p : Path) : Except RemoteError Value → Except Fault Value
  | .ok v => v.resolve p.rest
  | .error error => .error (.ofRemote error)

/-- What a request finds for a query when it reads through a session, and the remote side behind
it. -/
def Query.found (q : Query) (x : σ) (r : ρ) : Except Fault Value × ρ :=
  match q.path with
  | .error f => (.error f, r)
  | .ok p =>
    (p.follow (Remote.read x q.bean p.attributeName r).1,
      (Remote.read x q.bean p.attributeName r).2)

/-- The line for what has been found for a query, or the fault for which the request is given up. -/
def Template.lineFor (t : Template) (found : Except Fault Value) : Except Fault String :=
  match found with
  | .ok v => .ok ((t.line v).getD notAvailable)
  | .error f => if f.itemLevel then .ok notAvailable else .error f

/-- The lines that a request gathers for its queries when it reads through a session, or the fault
for which it is given up, and the remote side behind it. -/
def Get.gather (x : σ) (t : Template) : List Query → ρ → Except Fault (List String) × ρ
  | [], r => (.ok [], r)
  | q :: queries, r =>
    match t.lineFor (q.found x r).1 with
    | .error f => (.error f, (q.found x r).2)
    | .ok line =>
      let rest := gather x t queries (q.found x r).2
      (rest.1.map (line :: ·), rest.2)

/-- The answer of a request that has some lines already, by what it gathers for the remaining
queries. -/
def Get.answer (lines : List String) : Except Fault (List String) → Response
  | .ok ls => .ok (lines ++ ls)
  | .error f => .err .channelError f.detail

variable {x : σ} {t : Template} {q : Query} {queries : List Query} {r : ρ} {l : String} {f : Fault}

theorem Get.gather_cons (h : t.lineFor (q.found x r).1 = .ok l) :
    gather x t (q :: queries) r =
      ((gather x t queries (q.found x r).2).1.map (l :: ·),
        (gather x t queries (q.found x r).2).2) := by
  rw [gather, h]

theorem Get.gather_cons_error (h : t.lineFor (q.found x r).1 = .error f) :
    gather x t (q :: queries) r = (.error f, (q.found x r).2) := by
  rw [gather, h]

omit [Remote ρ τ σ] in
theorem Get.answer_map (lines : List String) (l : String) (found : Except Fault (List String)) :
    answer lines (found.map (l :: ·)) = answer (lines ++ [l]) found := by
  cases found with
  | error f => rfl
  | ok ls =>
    change Response.ok (lines ++ l :: ls) = Response.ok (lines ++ [l] ++ ls)
    rw [List.append_assoc, List.singleton_append]

/-! ### The holder -/

namespace Gateway

variable {g g' : Gateway ρ σ} {url : String} {h : HolderId}

/-- The cached holder of a URL is connected, and nobody else uses it. -/
structure Connected (g : Gateway ρ σ) (url : String) (h : HolderId) (x : σ) : Prop where
  stands : g.Stands h {} (.connected x)
  cached : g.cached? url = some h
  endpoint : g.endpoint h = url

/-- The connection of a holder has been dropped: it is closed, and its URL has no cached holder. -/
structure Dropped (g : Gateway ρ σ) (url : String) (h : HolderId) : Prop where
  stands : g.Stands h {} .closed
  uncached : g.cached? url = none

theorem Connected.touches (hc : g.Connected url h x) (ht : g.Touches h g')
    (hs : g'.Stands h {} (.connected x)) : g'.Connected url h x :=
  ⟨hs, ht.cached?.trans hc.cached, (ht.endpoint h).trans hc.endpoint⟩

theorem Connected.counts (hc : g.Connected url h x) (hcount : g.Counts g') :
    g'.Connected url h x :=
  hc.touches (touches_of_eq hcount.holders hcount.cache) (hc.stands.of_eq hcount.holders)

/-- How a request leaves the holder, by what it has gathered: connected if it has a line for each
query, and dropped otherwise. -/
def LeftBy (g : Gateway ρ σ) (url : String) (h : HolderId) (x : σ) :
    Except Fault (List String) × ρ → Prop
  | (.ok _, r) => g.Connected url h x ∧ g.remote = r
  | (.error _, r) => g.Dropped url h ∧ g.remote = (Remote.close x r).2

theorem LeftBy.map {gathered : Except Fault (List String) × ρ} (h' : g.LeftBy url h x gathered)
    (f : List String → List String) : g.LeftBy url h x (gathered.1.map f, gathered.2) := by
  obtain ⟨found, r⟩ := gathered
  cases found with
  | error f => exact h'
  | ok ls => exact h'

/-- A connected holder that leaves the cache stands as it did. -/
theorem Connected.invalidate (hc : g.Connected url h x) :
    (g.invalidate h).Stands h {} (.connected x) ∧ (g.invalidate h).cached? url = none := by
  refine ⟨(g.evolves_invalidate h).stands hc.stands, ?_⟩
  rw [cached?_invalidate, hc.endpoint, if_pos ⟨rfl, hc.cached⟩]

end Gateway

/-! ### What a request does -/

namespace Activity

variable {g : Gateway ρ σ} {url : String} {h : HolderId} {id : TaskId} {get : Get}
  {lines : List String}

/-- **What a request does for one query**: it settles the query by what it finds through the
session. -/
theorem goes_found (id : TaskId) (get : Get) (lines : List String) (q : Query)
    (queries : List Query) (hc : g.Connected url h x) :
    ∃ g', Goes (τ := τ) id (proceed h get lines (q :: queries) g)
        (settle h ⟨get, lines, q :: queries⟩ (q.found x g.remote).1 g') ∧
      g'.Connected url h x ∧ g'.remote = (q.found x g.remote).2 := by
  obtain ⟨bean, rawPath, path⟩ := q
  cases path with
  | error f => exact ⟨g, .refl, hc, rfl⟩
  | ok p =>
    obtain ⟨g', hends, hs, hr⟩ := Access.ends_fetch id hc.stands bean p.attributeName
    refine ⟨g', ?_, hc.touches hends.touches hs, hr⟩
    have hgoes := goes_of_ends hends
      (.fetching ⟨get, lines, ⟨bean, rawPath, .ok p⟩ :: queries⟩ false)
    refine hgoes.tail (congrArg some ?_)
    simp only [Access.readOutcome, Query.found, Path.follow]
    cases (Remote.read x bean p.attributeName g.remote).1 with
    | ok v => rfl
    | error error => cases error <;> rfl

omit [Remote ρ τ σ] in
/-- If there is a line for what has been found, the request goes on behind it. -/
theorem settle_of_line {found : Except Fault Value} (hl : get.template.lineFor found = .ok l)
    (h : HolderId) (lines : List String) (q : Query) (queries : List Query) (g : Gateway ρ σ) :
    ∃ g', g.Counts g' ∧ settle (τ := τ) h ⟨get, lines, q :: queries⟩ found g =
      proceed h get (lines ++ [l]) queries g' := by
  cases found with
  | ok v =>
    cases hl
    cases hv : get.template.line v with
    | some line => exact ⟨g, .refl g, by simp [settle, hv]⟩
    | none => exact ⟨_, g.counts_countUnavailable, by simp [settle, hv]⟩
  | error f =>
    by_cases hf : f.itemLevel = true
    · obtain rfl : notAvailable = l := by simpa [Template.lineFor, hf] using hl
      exact ⟨_, g.counts_countUnavailable, by simp [settle, hf]⟩
    · simp [Template.lineFor, hf] at hl

omit [Remote ρ τ σ] in
/-- If there is none, the request is given up. -/
theorem settle_of_fault {found : Except Fault Value} (hf : get.template.lineFor found = .error f)
    (h : HolderId) (lines : List String) (queries : List Query) (g : Gateway ρ σ) :
    settle (τ := τ) h ⟨get, lines, queries⟩ found g = giveUp h f g := by
  cases found with
  | ok v => cases hf
  | error f' =>
    by_cases hitem : f'.itemLevel = true
    · simp [Template.lineFor, hitem] at hf
    · obtain rfl : f' = f := by simpa [Template.lineFor, hitem] using hf
      simp [settle, hitem]

/-- A request that gives up drops the connection and tells of the fault. -/
theorem goes_giveUp_connected (id : TaskId) (f : Fault) (hc : g.Connected url h x) :
    ∃ g', Goes (τ := τ) id (giveUp h f g)
        (g', .finished (.answered (.err .channelError f.detail))) ∧
      g'.Dropped url h ∧ g'.remote = (Remote.close x g.remote).2 := by
  let g₁ := g.count fun m => { m with remoteErrors := m.remoteErrors + 1 }
  obtain ⟨hs, hnone⟩ := (hc.counts (g.counts_count _ : g.Counts g₁)).invalidate
  obtain ⟨g', hends, hs', hr⟩ := Access.ends_close id hs
  have hcached : g'.cached? url = none := hends.touches.cached?.trans hnone
  rw [g₁.remote_invalidate] at hr
  exact ⟨_, (goes_of_ends hends (.givingUp f)).tail rfl,
    ⟨hs'.of_eq rfl, hcached⟩, hr⟩

/-- **What a request does for its queries**: it answers by what it gathers for them. -/
theorem goes_gather (id : TaskId) (get : Get) (lines : List String) (queries : List Query)
    (hc : g.Connected url h x) :
    ∃ g', Goes (τ := τ) id (proceed h get lines queries g)
        (g', .finished (.answered
          (Get.answer lines (Get.gather x get.template queries g.remote).1))) ∧
      g'.LeftBy url h x (Get.gather x get.template queries g.remote) := by
  induction queries generalizing g lines with
  | nil =>
    rw [Get.gather, Get.answer, List.append_nil]
    exact ⟨_, .refl, hc.counts (g.counts_count _), rfl⟩
  | cons q queries ih =>
    obtain ⟨g₁, hgoes, hc₁, hr₁⟩ := goes_found (τ := τ) id get lines q queries hc
    cases hl : get.template.lineFor (q.found x g.remote).1 with
    | error f =>
      obtain ⟨g', hgoes', hd, hr'⟩ := goes_giveUp_connected (τ := τ) id f hc₁
      rw [Get.gather_cons_error hl, ← hr₁]
      rw [settle_of_fault hl] at hgoes
      exact ⟨g', hgoes.trans hgoes', hd, hr'⟩
    | ok l =>
      obtain ⟨g₂, hcount, hsettle⟩ := settle_of_line (τ := τ) hl h lines q queries g₁
      obtain ⟨g', hgoes', hleft⟩ := ih (lines ++ [l]) (hc₁.counts hcount)
      rw [Get.gather_cons hl, Get.answer_map, ← hr₁, ← hcount.remote]
      rw [hsettle] at hgoes
      exact ⟨g', hgoes.trans hgoes', hleft.map _⟩

/-- A request line gets the connected holder of its endpoint, and goes on with its queries. -/
theorem goes_begin_connected (id : TaskId) {line : String}
    (hp : Command.parse line = .ok (.get get)) (hc : g.Connected get.endpoint h x) :
    ∃ g', Goes (τ := τ) id (g, .beginning (.answer line)) (proceed h get [] get.queries g') ∧
      g'.Connected get.endpoint h x ∧ g'.remote = g.remote := by
  obtain ⟨g₁, hcount, -, hbegin⟩ := goes_beginLine (τ := τ) id hp g
  have hc₁ := hc.counts hcount
  have hacq : g₁.acquire get.endpoint = (h, g₁) := by rw [Gateway.acquire, hc₁.cached]
  rw [connect, hacq] at hbegin
  obtain ⟨g', hends, hs, hr⟩ := Access.ends_join (τ := τ) id hc₁.stands
  exact ⟨g', hbegin.trans ((goes_of_ends hends (.connecting _ false false)).tail rfl),
    hc₁.touches hends.touches hs, hr.trans hcount.remote⟩

end Activity

/-- **A request line that finds the holder of its endpoint connected** is answered, if nothing else
goes on, by what it gathers for its queries. -/
theorem System.run_connected {s : System ρ τ σ} {line : String} {get : Get} {h : HolderId}
    (hp : Command.parse line = .ok (.get get)) (hc : s.gateway.Connected get.endpoint h x) :
    ∃ n s', Run s (.begin (.answer line) :: List.replicate n (.advance s.tasks.length)) s' ∧
      s'.result? s.tasks.length = some (.answered
        (Get.answer [] (Get.gather x get.template get.queries s.gateway.remote).1)) ∧
      s'.gateway.LeftBy get.endpoint h x
        (Get.gather x get.template get.queries s.gateway.remote) := by
  obtain ⟨g₁, hgoes, hc₁, hr₁⟩ := Activity.goes_begin_connected s.tasks.length hp hc
  obtain ⟨g', hgoes', hleft⟩ := Activity.goes_gather s.tasks.length get [] get.queries hc₁
  rw [hr₁] at hgoes' hleft
  obtain ⟨n, hr⟩ := run_of_goes_begin (hgoes.trans hgoes')
  exact ⟨n, _, hr, result?_append .., hleft⟩

end AttributeGateway
