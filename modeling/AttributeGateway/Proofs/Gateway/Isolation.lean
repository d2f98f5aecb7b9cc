import AttributeGateway.Proofs.Gateway.Alone
import AttributeGateway.Proofs.Gateway.Mirroring

/-!
# Requests for one URL alone

Out of a run that answers request lines, the steps of all requests that are addressed to other URLs
than a given one can be deleted. What is left is a run, in which the remaining requests take the
same steps to the same responses, whatever the others waited for. The remaining tasks are numbered
anew, as some are missing.

* `Event.among`, `System.restrict` — the events of a run that are left.
* `System.Separate` — each task of a run keeps to the URL of its line.
* `System.Like` — the remaining tasks have come equally far in both runs.
* `System.endpoints_do_not_interfere` — what is left is a run, which comes to the same.
-/

namespace AttributeGateway

open Registry (Found)

/-- Every line is addressed to some URL, which is a given one or another. -/
theorem Command.exists_concerns (u line : String) : ∃ url, concerns url line = true ∧
    (concerns u line ≠ true → u ≠ url) := by
  cases hp : parse line with
  | error f => exact ⟨u, by rw [concerns, hp], fun hc => absurd (by rw [concerns, hp]) hc⟩
  | ok c =>
    refine ⟨c.endpoint, by simp [concerns, hp], ?_⟩
    rintro hc rfl
    exact hc (by simp [concerns, hp])

/-- A task has come equally far in both runs, but for numbers. -/
structure Task.Like (m : Matching) (t t' : Task Found Nat) : Prop where
  /-- It is at the same point. -/
  activity : t.activity.Like m t'.activity
  /-- It has a permit in both runs or in none. -/
  employed : t'.employed = t.employed

theorem Task.Like.mono {m m' : Matching} {t t' : Task Found Nat} (h : t.Like m t')
    (hm : m.Extends m') : t.Like m' t' := ⟨h.activity.mono hm, h.employed⟩

/-- Dropping a task comes to the same in both runs. -/
theorem Task.Like.abandon {m : Matching} {u : String} {t t' : Task Found Nat} {id id' : TaskId}
    {g g' : Gateway Registry Nat} (h : t.Like m t') (hm : m.OneToOne) (hg : g.Like m u g')
    (hid : m.tasks id id') : (t.abandon id g).Like m u (t'.abandon id' g') := by
  rw [Task.abandon_eq, Task.abandon_eq]
  refine Gateway.Like.setWorkers ?_ _ _
  have hact := h.activity
  generalize t.activity = act at hact
  generalize t'.activity = act' at hact
  cases hact with
  | requesting p ha => exact hg.modifyLock hm ha.holder (·.leave hm.tasks hid)
  | _ => exact hg

/-! ### Events that are left -/

namespace Event

variable {ρ σ : Type}

/-- A request line is to be answered, or a task takes a step or is dropped. -/
def OfRequests : Event ρ σ → Prop
  | .begin (.answer _) | .advance _ | .abandon _ => True
  | _ => False

/-- The line that is to be answered. -/
def line? : Event ρ σ → Option String
  | .begin (.answer line) => some line
  | _ => none

/-- An event as it is when only some of the tasks are there, numbered anew: none if it is of another
task, or of a line for another URL. -/
def among (u : String) (ids : List TaskId) : Event ρ σ → Option (Event ρ σ)
  | .begin (.answer line) =>
    if Command.concerns u line then some (.begin (.answer line)) else none
  | .advance id => (ids.idxOf? id).map .advance
  | .abandon id => (ids.idxOf? id).map .abandon
  | e => some e

end Event

namespace System

section
variable {ρ σ : Type} {u line : String} {lines lines' : List String} {k k' : TaskId}

/-- The lines that are to be answered, in the order of the numbers of their tasks. -/
def linesOf (es : List (Event ρ σ)) : List String := es.filterMap Event.line?

/-- The numbers of the tasks that remain: their lines are addressed to a URL, or to none. -/
def remaining (u : String) (lines : List String) : List TaskId :=
  (lines.zipIdx.filter fun l => Command.concerns u l.1).map Prod.snd

/-- What is left of events when everything is deleted that is of requests for other URLs. The lines
that were to be answered before are given. -/
def restrict (u : String) : List String → List (Event ρ σ) → List (Event ρ σ)
  | _, [] => []
  | lines, e :: es =>
    (e.among u (remaining u lines)).toList ++ restrict u (lines ++ e.line?.toList) es

theorem linesOf_snoc (es : List (Event ρ σ)) (e : Event ρ σ) :
    linesOf (es ++ [e]) = linesOf es ++ e.line?.toList := by
  cases he : e.line? <;> simp [linesOf, he]

theorem restrict_append (u : String) (lines : List String) (es es' : List (Event ρ σ)) :
    restrict u lines (es ++ es') =
      restrict u lines es ++ restrict u (lines ++ linesOf es) es' := by
  induction es generalizing lines with
  | nil => simp [restrict, linesOf]
  | cons e es ih =>
    have hlines : linesOf (e :: es) = e.line?.toList ++ linesOf es := by
      cases he : e.line? <;> simp [linesOf, he]
    simp [restrict, ih, hlines]

theorem restrict_snoc (u : String) (es : List (Event ρ σ)) (e : Event ρ σ) :
    restrict u [] (es ++ [e]) =
      restrict u [] es ++ (e.among u (remaining u (linesOf es))).toList := by
  simp [restrict_append, restrict]

theorem remaining_prefix_append (u : String) (lines lines' : List String) :
    remaining u lines <+: remaining u (lines ++ lines') := by
  simp [remaining, List.zipIdx_append]

theorem remaining_snoc (u line : String) (lines : List String) :
    remaining u (lines ++ [line]) =
      remaining u lines ++ if Command.concerns u line then [lines.length] else [] := by
  cases hc : Command.concerns u line <;> simp [remaining, List.zipIdx_append, hc]

theorem mem_remaining :
    k ∈ remaining u lines ↔ ∃ line, lines[k]? = some line ∧ Command.concerns u line = true := by
  simp [remaining, List.mem_zipIdx_iff_getElem?]

theorem nodup_remaining (u : String) (lines : List String) : (remaining u lines).Nodup := by
  have hsub : (remaining u lines).Sublist (lines.zipIdx.map Prod.snd) :=
    List.filter_sublist.map Prod.snd
  refine List.Nodup.sublist hsub ?_
  simp [List.nodup_range']

/-- The new number of one of some tasks. -/
def Numbered (ids : List TaskId) (k k' : TaskId) : Prop := ids[k']? = some k

theorem biUnique_numbered {ids : List TaskId} (hn : ids.Nodup) :
    Relator.BiUnique (Numbered ids) := by
  constructor
  · intro k₁ k₂ k' h₁ h₂
    exact Option.some.inj (h₁.symm.trans h₂)
  · intro k k₁' k₂' h₁ h₂
    exact (List.getElem?_inj (List.getElem?_eq_some_iff.1 h₁).1 hn).1 (h₁.trans h₂.symm)

theorem Numbered.of_prefix {ids ids' : List TaskId} (h : Numbered ids k k') (hp : ids <+: ids') :
    Numbered ids' k k' := by
  obtain ⟨rest, rfl⟩ := hp
  exact (List.getElem?_append_left (List.getElem?_eq_some_iff.1 h).1).trans h

theorem exists_numbered {ids : List TaskId} (hk : k ∈ ids) :
    ∃ k', ids.idxOf? k = some k' ∧ Numbered ids k k' := by
  obtain ⟨k', hk'⟩ := Option.isSome_iff_exists.1 (List.isSome_idxOf?.2 hk)
  obtain ⟨hlt, heq, -⟩ := List.idxOf?_eq_some_iff.1 hk'
  exact ⟨k', hk', List.getElem?_eq_some_iff.2 ⟨hlt, heq⟩⟩

end

/-! ### Tasks that keep to their URLs -/

variable {s s₁ s' : System Registry Found Nat} {e : Event Registry Nat} {lines : List String}
  {u : String} {m : Matching} {ids : List TaskId} {id k k' : TaskId}

/-- Every task is one that answers a line, and keeps to the URL of the line. -/
structure Separate (lines : List String) (s : System Registry Found Nat) : Prop where
  /-- The gateway is in order. -/
  ordered : s.gateway.Ordered
  /-- There is a task for each line. -/
  length : s.tasks.length = lines.length
  /-- No task has a permit. -/
  employed : ∀ {id t}, s.task? id = some t → t.employed = false
  /-- All that a task uses is of the URL of its line. -/
  addressed : ∀ {id t line url}, s.task? id = some t → lines[id]? = some line →
    Command.concerns url line = true → t.activity.Addressed s.gateway url

theorem separate_start {remote : Registry} (ha : remote.Apart) (workers : Permits) :
    Separate [] (start remote workers) where
  ordered := ⟨nofun, nofun, ha⟩
  length := rfl
  employed h := by cases h
  addressed h := by cases h

theorem Separate.exists_line (hs : Separate lines s) {t : Task Found Nat}
    (ht : s.task? id = some t) : ∃ line, lines[id]? = some line :=
  ⟨_, List.getElem?_eq_getElem (hs.length ▸ lt_of_task? ht)⟩

/-- What holders and sessions are stays the same, and so do tasks, but for one that takes a step. -/
theorem Separate.of_keeps (hs : Separate lines s) (ho : s₁.gateway.Ordered)
    (hk : s.gateway.Keeps s₁.gateway) (hlen : s₁.tasks.length = s.tasks.length)
    (ht : ∀ {id t}, s₁.task? id = some t → s.task? id = some t ∨
      t.employed = false ∧ ∀ {line url}, lines[id]? = some line →
        Command.concerns url line = true → t.activity.Addressed s₁.gateway url) :
    Separate lines s₁ where
  ordered := ho
  length := hlen.trans hs.length
  employed h := (ht h).elim hs.employed And.left
  addressed h hl hu := (ht h).elim (fun h => (hs.addressed h hl hu).keeps hk) fun h => h.2 hl hu

theorem Separate.begin (hs : Separate lines s) (line : String) :
    Separate (lines ++ [line]) (s.begin (.answer line)) where
  ordered := hs.ordered
  length := by simp [System.begin, hs.length]
  employed {id t} h := by
    rw [task?_begin] at h
    split at h
    · cases h
      rfl
    · exact hs.employed h
  addressed {id t line' url} h hl hu := by
    rw [task?_begin] at h
    split at h
    · next hid =>
      rw [hid, hs.length, List.getElem?_concat_length] at hl
      cases h
      cases hl
      exact .answer hu
    · next hid =>
      have hlt := hs.length ▸ lt_of_task? h
      rw [List.getElem?_append_left hlt] at hl
      exact hs.addressed h hl hu

/-- A task that takes a step answers a line, and has no permit. -/
theorem Separate.step_of_advance? (hs : Separate lines s) (h : s.advance? id = some s₁) :
    ∃ act act' line, s.task? id = some ⟨act, false⟩ ∧ lines[id]? = some line ∧
      act.step id s.gateway = some (s₁.gateway, act') ∧
      s₁.tasks = s.tasks.set id (some ⟨act', false⟩) := by
  obtain ⟨⟨act, employed⟩, t', ht, hstep, hset⟩ := advance_cases h
  obtain ⟨line, hl⟩ := hs.exists_line ht
  obtain ⟨url, hu, -⟩ := Command.exists_concerns "" line
  obtain rfl : employed = false := hs.employed ht
  have hq (line : String) : act ≠ .queueing line := by
    rintro rfl
    cases hs.addressed ht hl hu
  rw [Task.step_unemployed hq, Option.map_eq_some_iff] at hstep
  obtain ⟨⟨g₁, act'⟩, hact, heq⟩ := hstep
  cases heq
  exact ⟨act, act', line, ht, hl, hact, hset⟩

/-- A step of a task keeps all tasks to their URLs, and spares all URLs to which the line of the
task is not addressed. -/
theorem Separate.advance (hs : Separate lines s) (h : s.advance? id = some s₁) :
    Separate lines s₁ ∧ (id ∉ remaining u lines → s.gateway.Spares u s₁.gateway) := by
  obtain ⟨act, act', line, ht, hl, hact, hset⟩ := hs.step_of_advance? h
  -- A line that is no request is addressed to every URL, so any URL of the line will do.
  obtain ⟨url, hu, hurl⟩ := Command.exists_concerns u line
  obtain ⟨ho, hk, -, hspares⟩ := (hs.addressed ht hl hu).step hs.ordered hact
  refine ⟨hs.of_keeps ho hk (by rw [hset, List.length_set]) fun {id' t} ht' => ?_, fun hid => ?_⟩
  · rw [task?_of_set ht hset] at ht'
    split at ht'
    · next hid =>
      cases ht'
      refine .inr ⟨rfl, fun {line' url'} hl' hu' => ?_⟩
      rw [hid, hl] at hl'
      cases hl'
      exact ((hs.addressed ht hl hu').step hs.ordered hact).2.2.1
    · exact .inl ht'
  · exact hspares u (hurl fun hc => hid (mem_remaining.2 ⟨line, hl, hc⟩))

/-- So does dropping a task. -/
theorem Separate.abandon (hs : Separate lines s) (id : TaskId) :
    Separate lines (s.abandon id) ∧
      (id ∉ remaining u lines → s.gateway.Spares u (s.abandon id).gateway) := by
  rcases abandon_cases s id with ⟨-, heq⟩ | ⟨t, ht, heq⟩
  · rw [heq]
    exact ⟨hs, fun _ => (Gateway.Evolves.refl _).spares rfl⟩
  · obtain ⟨line, hl⟩ := hs.exists_line ht
    obtain ⟨url, hu, hurl⟩ := Command.exists_concerns u line
    obtain ⟨ho, hk, hspares⟩ := (hs.addressed ht hl hu).abandon hs.ordered id
    have hset : (s.abandon id).tasks = s.tasks.set id none := by rw [heq]
    have hgateway : (s.abandon id).gateway = t.abandon id s.gateway := by rw [heq]
    rw [← hgateway] at ho hk hspares
    refine ⟨hs.of_keeps ho hk (by rw [hset, List.length_set]) fun {id' t'} ht' => ?_, fun hid => ?_⟩
    · rw [task?_of_set ht hset] at ht'
      split at ht'
      · cases ht'
      · exact .inl ht'
    · exact hspares u (hurl fun hc => hid (mem_remaining.2 ⟨line, hl, hc⟩))

/-! ### The same steps in both runs -/

/-- The remaining tasks have come equally far in both runs, and the gateways are alike. -/
structure Like (m : Matching) (u : String) (ids : List TaskId)
    (s s' : System Registry Found Nat) : Prop where
  /-- As far as the URL goes, the gateways are the same but for numbers. -/
  gateway : s.gateway.Like m u s'.gateway
  /-- There are no tasks but the remaining ones. -/
  length : s'.tasks.length = ids.length
  /-- They have come equally far. -/
  task : ∀ {k k'}, Numbered ids k k' → Option.Rel (Task.Like m) (s.task? k) (s'.task? k')

variable {s₁' : System Registry Found Nat} {m₁ : Matching} {o o' : Option (Task Found Nat)}
  {full : List TaskId} {es : List (Event Registry Nat)} {t : Task Found Nat}

theorem Like.exists_task (hl : s.Like m u ids s') (hk : Numbered ids k k')
    (ht : s.task? k = some t) : ∃ t', s'.task? k' = some t' ∧ t.Like m t' := by
  have hrel := hl.task hk
  rw [ht] at hrel
  generalize s'.task? k' = o' at hrel
  cases hrel with
  | some h => exact ⟨_, rfl, h⟩

/-- What spares the URL and leaves the remaining tasks as they are makes no difference. -/
theorem Like.spares (hl : s.Like m u ids s') (hg : s.gateway.Spares u s₁.gateway)
    (ht : ∀ k ∈ ids, s₁.task? k = s.task? k) : s₁.Like m u ids s' where
  gateway := hl.gateway.spares hg
  length := hl.length
  task {k k'} hk := by
    rw [ht k (List.mem_of_getElem? hk)]
    exact hl.task hk

/-- Systems stay alike when the same becomes of a task in both. -/
theorem Like.set (hl : s.Like m u ids s') (hm : m.Extends m₁) (hn : ids.Nodup)
    (hk : Numbered ids k k') (ht : s.task? k = some t) (hset : s₁.tasks = s.tasks.set k o)
    (hset' : s₁'.tasks = s'.tasks.set k' o') (ho : Option.Rel (Task.Like m₁) o o')
    (hg : s₁.gateway.Like m₁ u s₁'.gateway) : s₁.Like m₁ u ids s₁' where
  gateway := hg
  length := by rw [hset', List.length_set, hl.length]
  task {j j'} hj := by
    obtain ⟨t', ht', -⟩ := hl.exists_task hk ht
    have hiff : j = k ↔ j' = k' := Relator.rel_eq (biUnique_numbered hn) hj hk
    rw [task?_of_set ht hset, task?_of_set ht' hset']
    by_cases hjk : j = k
    · rw [if_pos hjk, if_pos (hiff.1 hjk)]
      exact ho
    · rw [if_neg hjk, if_neg (mt hiff.2 hjk)]
      have hrel := hl.task hj
      generalize s.task? j = p at hrel
      generalize s'.task? j' = p' at hrel
      cases hrel with
      | none => exact .none
      | some h => exact .some (h.mono hm)

/-- A task for a line that is addressed to the URL is added in both runs. -/
theorem Like.begin (hl : s.Like m u ids s') (hlt : ∀ k ∈ ids, k < s.tasks.length)
    (line : String) :
    (s.begin (.answer line)).Like m u (ids ++ [s.tasks.length]) (s'.begin (.answer line)) where
  gateway := hl.gateway
  length := by simp [System.begin, hl.length]
  task {k k'} hk := by
    rw [task?_begin, task?_begin, hl.length]
    rcases Nat.lt_trichotomy k' ids.length with hk' | hk' | hk'
    · rw [Numbered, List.getElem?_append_left hk'] at hk
      rw [if_neg (Nat.ne_of_lt (hlt k (List.mem_of_getElem? hk))), if_neg (Nat.ne_of_lt hk')]
      exact hl.task hk
    · rw [Numbered, hk', List.getElem?_concat_length] at hk
      rw [if_pos (Option.some.inj hk).symm, if_pos hk']
      exact .some ⟨.answer line, rfl⟩
    · rw [Numbered, List.getElem?_eq_none (by simpa using hk')] at hk
      cases hk

/-- A step of a remaining task is taken in both runs. -/
theorem Like.advance (hl : s.Like m u (remaining u lines) s') (hs : Separate lines s)
    (hm : m.OneToOne) (hk : Numbered (remaining u lines) k k') (hT : m.tasks k k')
    (h : s.advance? k = some s₁) :
    ∃ m₁ s₁', m.Extends m₁ ∧ m₁.OneToOne ∧ s'.advance? k' = some s₁' ∧
      s₁.Like m₁ u (remaining u lines) s₁' := by
  obtain ⟨act, act', line, ht, hline, hact, hset⟩ := hs.step_of_advance? h
  obtain ⟨⟨act₁, employed⟩, ht', hlike, hemp⟩ := hl.exists_task hk ht
  obtain rfl : employed = false := hemp
  have hu : Command.concerns u line = true := by
    obtain ⟨line', hline', hu⟩ := mem_remaining.1 (List.mem_of_getElem? hk)
    rw [hline] at hline'
    cases hline'
    exact hu
  obtain ⟨⟨g', act₂⟩, hact', m₁, hext, hm₁, hg, ha⟩ :=
    hlike.step hm hl.gateway hT (hs.addressed ht hline hu) hact
  have hstep := Task.step_of_activity hact'
  refine ⟨m₁, ⟨g', s'.tasks.set k' (some ⟨act₂, false⟩)⟩, hext, hm₁, ?_, ?_⟩
  · simp [advance?, ht', hstep]
  · exact hl.set hext (nodup_remaining u lines) hk ht hset rfl (.some ⟨ha, rfl⟩) hg

/-- A remaining task is dropped in both runs. -/
theorem Like.abandon (hl : s.Like m u (remaining u lines) s') (hm : m.OneToOne)
    (hk : Numbered (remaining u lines) k k') (hT : m.tasks k k') :
    (s.abandon k).Like m u (remaining u lines) (s'.abandon k') := by
  rcases abandon_cases s k with ⟨ht, heq⟩ | ⟨t, ht, heq⟩ <;>
    rcases abandon_cases s' k' with ⟨ht', heq'⟩ | ⟨t', ht', heq'⟩ <;>
    have hrel := hl.task hk <;> rw [ht, ht'] at hrel <;> cases hrel
  · rw [heq, heq']
    exact hl
  · next htask =>
    rw [heq, heq']
    exact hl.set (.refl m) (nodup_remaining u lines) hk ht rfl rfl .none
      (htask.abandon hm hl.gateway hT)

theorem task?_advance_of_ne (h : s.advance? id = some s₁) (hk : k ≠ id) :
    s₁.task? k = s.task? k := by
  obtain ⟨t, t', ht, -, hset⟩ := advance_cases h
  rw [task?_of_set ht hset, if_neg hk]

theorem task?_abandon_of_ne (hk : k ≠ id) : (s.abandon id).task? k = s.task? k := by
  rcases abandon_cases s id with ⟨-, heq⟩ | ⟨t, ht, heq⟩
  · rw [heq]
  · rw [heq, task?_of_set ht rfl, if_neg hk]

/-- **One more event.** It is left out if it is of a request for another URL. Otherwise it can
happen in what is left, too. -/
theorem Like.after (hl : s.Like m u (remaining u lines) s') (hs : Separate lines s)
    (hm : m.OneToOne) (hT : ∀ {k k'}, Numbered (remaining u lines) k k' → m.tasks k k')
    (he : e.OfRequests) (h : s.after? e = some s₁) :
    ∃ m₁ s₁', m.Extends m₁ ∧ m₁.OneToOne ∧
      Run s' (e.among u (remaining u lines)).toList s₁' ∧
      s₁.Like m₁ u (remaining u (lines ++ e.line?.toList)) s₁' := by
  have hne {id} (hid : id ∉ remaining u lines) : ∀ k ∈ remaining u lines, k ≠ id := by
    rintro k hk rfl
    exact hid hk
  cases e with
  | begin op =>
    cases op with
    | answer line =>
      cases h
      have hlt : ∀ k ∈ remaining u lines, k < s.tasks.length := fun k hk => by
        obtain ⟨line, hline, -⟩ := mem_remaining.1 hk
        exact hs.length ▸ (List.getElem?_eq_some_iff.1 hline).1
      rw [Event.line?, Option.toList_some, remaining_snoc, ← hs.length, Event.among]
      by_cases hu : Command.concerns u line = true
      · rw [if_pos hu, if_pos hu]
        exact ⟨m, _, .refl m, hm, .snoc (.nil s') rfl, hl.begin hlt line⟩
      · rw [if_neg hu, if_neg hu, List.append_nil]
        refine ⟨m, s', .refl m, hm, .nil s',
          hl.spares ((Gateway.Evolves.refl s.gateway).spares rfl) fun k hk => ?_⟩
        rw [task?_begin, if_neg (Nat.ne_of_lt (hlt k hk))]
    | _ => cases he
  | advance id =>
    simp only [Event.line?, Option.toList_none, List.append_nil, Event.among]
    by_cases hid : id ∈ remaining u lines
    · obtain ⟨k', hidx, hk⟩ := exists_numbered hid
      obtain ⟨m₁, s₁', hext, hm₁, hs₁', hlike⟩ := hl.advance hs hm hk (hT hk) h
      rw [hidx]
      exact ⟨m₁, s₁', hext, hm₁, .snoc (.nil s') hs₁', hlike⟩
    · obtain ⟨-, hspares⟩ := hs.advance h
      rw [List.idxOf?_eq_none_iff.2 hid]
      exact ⟨m, s', .refl m, hm, .nil s',
        hl.spares (hspares hid) fun k hk => task?_advance_of_ne h (hne hid k hk)⟩
  | abandon id =>
    cases h
    simp only [Event.line?, Option.toList_none, List.append_nil, Event.among]
    by_cases hid : id ∈ remaining u lines
    · obtain ⟨k', hidx, hk⟩ := exists_numbered hid
      rw [hidx]
      exact ⟨m, _, .refl m, hm, .snoc (.nil s') rfl, hl.abandon hm hk (hT hk)⟩
    · obtain ⟨-, hspares⟩ := hs.abandon (u := u) id
      rw [List.idxOf?_eq_none_iff.2 hid]
      exact ⟨m, s', .refl m, hm, .nil s',
        hl.spares (hspares hid) fun k hk => task?_abandon_of_ne (hne hid k hk)⟩
  | acquire | addHolder | alter | withdraw => cases he

/-! ### Runs -/

theorem Separate.after (hs : Separate lines s) (he : e.OfRequests) (h : s.after? e = some s₁) :
    Separate (lines ++ e.line?.toList) s₁ := by
  cases e with
  | begin op =>
    cases op with
    | answer line =>
      cases h
      exact hs.begin line
    | _ => cases he
  | advance id => simpa [Event.line?] using (hs.advance (u := "") h).1
  | abandon id =>
    cases h
    simpa [Event.line?] using (hs.abandon (u := "") id).1
  | acquire | addHolder | alter | withdraw => cases he

/-- Gateways without holders over the same remote side are alike. -/
theorem like_start (remote : Registry) (workers : Permits) (u : String)
    (T : TaskId → TaskId → Prop) :
    Like ⟨T, fun _ _ => False, fun _ _ => False⟩ u [] (start remote workers)
      (start remote workers) where
  gateway := ⟨False.elim, False.elim, .none, rfl, fun _ => rfl, False.elim⟩
  length := rfl
  task h := by cases h

/-- No numbers stand for each other. -/
theorem biUnique_false : Relator.BiUnique fun _ _ : Nat => False := ⟨nofun, nofun⟩

/-- What is left of a run is a run. The numbers of the tasks that remain are given, those of tasks
that begin later among them. -/
theorem RunWhere.restrict {remote : Registry} {workers : Permits} (ha : remote.Apart)
    (hr : RunWhere (fun _ e => e.OfRequests) (start remote workers) es s)
    (hp : remaining u (linesOf es) <+: full) (hn : full.Nodup) :
    Separate (linesOf es) s ∧ ∃ m s', m.OneToOne ∧ m.tasks = Numbered full ∧
      Run (start remote workers) (System.restrict u [] es) s' ∧
      s.Like m u (remaining u (linesOf es)) s' := by
  -- The numbers of all tasks are fixed ahead, so that no step has to change those of earlier tasks.
  generalize hstart : start remote workers = s₀ at hr
  induction hr with
  | nil =>
    subst hstart
    exact ⟨separate_start ha workers, _, _, ⟨biUnique_numbered hn, biUnique_false, biUnique_false⟩,
      rfl, .nil _, like_start remote workers u _⟩
  | @snoc s s₁ es e hr he h ih =>
    rw [linesOf_snoc] at hp ⊢
    have hp' := (remaining_prefix_append u (linesOf es) e.line?.toList).trans hp
    obtain ⟨hs, m, s', hm, hT, hr', hl⟩ := ih hp'
    obtain ⟨m₁, s₁', hext, hm₁, hrest, hl₁⟩ :=
      hl.after hs hm (fun hk => by rw [hT]; exact hk.of_prefix hp') he h
    refine ⟨hs.after he h, m₁, s₁', hm₁, hext.tasks.trans hT, ?_, hl₁⟩
    rw [restrict_snoc]
    exact hr'.trans hrest

/-- The requests for a URL do not see that those for other URLs are missing. -/
structure Isolated (u : String) (lines : List String) (s s' : System Registry Found Nat) :
    Prop where
  /-- The remaining requests have come equally far. The cached holders of the URL are in the same
  state, and so are their sessions. -/
  like : ∃ m, m.OneToOne ∧ m.tasks = Numbered (remaining u lines) ∧
    s.Like m u (remaining u lines) s'
  /-- The remaining requests have the same responses. -/
  result : ∀ {k k'}, Numbered (remaining u lines) k k' → s'.result? k' = s.result? k
  /-- The endpoint of the URL has seen the same attempts, and has the same number of open
  sessions. -/
  endpoint : s'.gateway.remote.endpoint? u = s.gateway.remote.endpoint? u

theorem Like.result? (hl : s.Like m u ids s') (hk : Numbered ids k k') :
    s'.result? k' = s.result? k := by
  have hrel := hl.task hk
  rw [System.result?, System.result?]
  generalize s.task? k = o at hrel
  generalize s'.task? k' = o' at hrel
  cases hrel with
  | none => rfl
  | @some t t' h =>
    have hact := h.activity
    rw [Option.bind_some, Option.bind_some]
    generalize t.activity = act at hact
    generalize t'.activity = act' at hact
    cases hact <;> rfl

theorem Like.isolated (hl : s.Like m u (remaining u lines) s') (hm : m.OneToOne)
    (hT : m.tasks = Numbered (remaining u lines)) : Isolated u lines s s' where
  like := ⟨m, hm, hT, hl⟩
  result hk := hl.result? hk
  endpoint := by
    have hremote := hl.gateway.remote
    rw [Registry.endpoint?, Registry.endpoint?, hremote.directory]
    cases hi : s.gateway.remote.directory.get? u with
    | none => rfl
    | some i => exact hremote.endpoint hi

theorem RunWhere.isolated {remote : Registry} {workers : Permits} (ha : remote.Apart)
    (hr : RunWhere (fun _ e => e.OfRequests) (start remote workers) es s) (u : String) :
    ∃ s', Run (start remote workers) (System.restrict u [] es) s' ∧
      Isolated u (linesOf es) s s' := by
  obtain ⟨-, m, s', hm, hT, hr', hl⟩ :=
    hr.restrict ha (List.prefix_refl _) (nodup_remaining u (linesOf es))
  exact ⟨s', hr', hl.isolated hm hT⟩

/-- **Endpoints do not interfere.** From a run that answers request lines over endpoints that are
apart, everything can be deleted that is of requests for other URLs than a given one, those
included that wait for something. What is left is a run, and the remaining requests do not see the
difference: not at the end, and not at any moment on the way there. -/
theorem endpoints_do_not_interfere {remote : Registry} {workers : Permits} (ha : remote.Apart)
    (hr : RunWhere (fun _ e => e.OfRequests) (start remote workers) es s) (u : String) :
    (∃ s', Run (start remote workers) (restrict u [] es) s' ∧ Isolated u (linesOf es) s s') ∧
      ∀ es₁ s₁, es₁ <+: es → Run (start remote workers) es₁ s₁ →
        restrict u [] es₁ <+: restrict u [] es ∧
          ∃ s₁', Run (start remote workers) (restrict u [] es₁) s₁' ∧
            Isolated u (linesOf es₁) s₁ s₁' := by
  refine ⟨hr.isolated ha u, ?_⟩
  rintro es₁ s₁ ⟨es₂, rfl⟩ hr₁
  refine ⟨by rw [restrict_append]; exact List.prefix_append _ _, ?_⟩
  obtain ⟨s₁', hr₁', -⟩ := hr.of_append
  obtain rfl := hr₁'.run.unique hr₁
  exact RunWhere.isolated ha hr₁' u

/-- Two endpoints. -/
def twoEndpoints : Registry :=
  (({} : Registry).register "u" |>.register "v").modify "u"
    (·.setAttribute "b" "a" (.text "x"))

/-- A request for `v` waits for a connection, and another one for the holder that the first one has
locked; meanwhile a request for `u` is answered, and a line that is no request. -/
def stalled : List (Event Registry Nat) :=
  List.flatten [[.begin (.answer "GET v %s b a")], List.replicate 5 (.advance 0),
    [.begin (.answer "GET u %s b a")], List.replicate 13 (.advance 1),
    [.begin (.answer "CLOSE v"), .advance 2, .advance 2, .begin (.answer "PING"), .advance 3]]

/-- Without the requests for `v`, the request for `u` gets the same response in the same number of
steps. -/
theorem endpoints_do_not_interfere_stalled :
    ((start twoEndpoints ⟨0, [], [], false⟩).behind stalled).result? 0 = none ∧
      ((start twoEndpoints ⟨0, [], [], false⟩).behind stalled).result? 2 = none ∧
      ∃ s', Run (start twoEndpoints ⟨0, [], [], false⟩)
          (List.flatten [[.begin (.answer "GET u %s b a")], List.replicate 13 (.advance 0),
            [.begin (.answer "PING"), .advance 1]]) s' ∧
        s'.result? 0 = some (.answered (.ok ["x"])) ∧
        s'.result? 1 = some (.answered (.err .unknownCommand "PING")) := by
  have hr : Run (start twoEndpoints ⟨0, [], [], false⟩) stalled
      ((start twoEndpoints ⟨0, [], [], false⟩).behind stalled) := run_behind (by decide +kernel)
  have hP : RunWhere (fun _ e => e.OfRequests) (start twoEndpoints ⟨0, [], [], false⟩) stalled
      ((start twoEndpoints ⟨0, [], [], false⟩).behind stalled) := by
    refine hr.runWhere fun u e he => ?_
    simp only [stalled, List.flatten_cons, List.flatten_nil, List.mem_append, List.mem_cons,
      List.mem_replicate, List.not_mem_nil, or_false] at he
    rcases he with rfl | ⟨-, rfl⟩ | rfl | ⟨-, rfl⟩ | rfl | rfl | rfl | rfl | rfl <;> trivial
  have ha : twoEndpoints.Apart := Registry.apart_of_alters
    (((Relation.ReflTransGen.single (.register "u")).tail (.register "v")).tail
      (.modify "u" fun _ => rfl))
  have hgetV : Command.concerns "u" "GET v %s b a" = false := by decide +kernel
  have hgetU : Command.concerns "u" "GET u %s b a" = true := by decide +kernel
  have hclose : Command.concerns "u" "CLOSE v" = false := by decide +kernel
  have hping : Command.concerns "u" "PING" = true := by decide +kernel
  have hids : remaining "u" (linesOf stalled) = [1, 3] := by
    simp [linesOf, stalled, List.filterMap_cons, Event.line?, remaining, hgetV, hgetU, hclose,
      hping]
  have hrestrict : restrict "u" [] stalled =
      List.flatten [[.begin (.answer "GET u %s b a")], List.replicate 13 (.advance 0),
        [.begin (.answer "PING"), .advance 1]] := by
    simp [restrict, stalled, Event.line?, Event.among, remaining, List.idxOf?, List.findIdx?_cons,
      hgetV, hgetU, hclose, hping]
  obtain ⟨⟨s', hr', hs'⟩, -⟩ := endpoints_do_not_interfere ha hP "u"
  rw [hrestrict] at hr'
  have hfirst : Numbered (remaining "u" (linesOf stalled)) 1 0 := by rw [hids]; rfl
  have hsecond : Numbered (remaining "u" (linesOf stalled)) 3 1 := by rw [hids]; rfl
  refine ⟨by decide +kernel, by decide +kernel, s', hr', ?_, ?_⟩
  · rw [hs'.result hfirst]
    with_unfolding_all rfl
  · rw [hs'.result hsecond]
    with_unfolding_all rfl

end System

end AttributeGateway
