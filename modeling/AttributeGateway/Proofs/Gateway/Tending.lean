import AttributeGateway.Proofs.Gateway.Caching
import AttributeGateway.Proofs.Gateway.Closing

/-!
# Who looks after a holder

A holder is made for the cache, and as long as it is there somebody can find it to close it. Whoever
takes it out of the cache is about to close it, and is the only one who is. So a holder is forgotten
only when such a task is dropped before it has got as far; and so is a session, which stays with its
holder until it passes to the task that closes the holder.

* `Activity.Minds` — what a step without an access does to the cache: it takes out no holder but the
  one that it is about to close, and caches each holder that it makes.
* `System.Tended`, `Tended.after?` — a holder that is cached, or being closed, or done with.
* `System.held_after?` — a session that its holder has, or a task that is closing it, stays with
  them.
-/

namespace AttributeGateway

variable {ρ τ σ : Type}

namespace Activity

variable {g g₁ g' : Gateway ρ σ} {act : Activity τ σ} {h : HolderId} {u url : String} {id : TaskId}
  {next : Gateway ρ σ × Activity τ σ}

/-! ### What a step does to the cache -/

/-- An activity that is closing a holder. -/
def Closes (act : Activity τ σ) (h : HolderId) : Prop :=
  ∃ a, act.access? = some a ∧ a.holder = h ∧ a.aim = .close

/-- A holder that leaves the cache is about to be closed, and one that is made is cached. -/
structure Minds (g : Gateway ρ σ) (next : Gateway ρ σ × Activity τ σ) : Prop where
  /-- A holder that leaves the cache is about to be closed. -/
  kept : ∀ {u h}, g.cached? u = some h → next.1.cached? u = some h ∨ next.2.Closes h
  /-- A holder that is made is cached. -/
  made : ∀ {h}, next.1.Made h → g.Made h ∨ next.1.cached? (next.1.endpoint h) = some h

theorem minds_of_eq (hh : next.1.holders = g.holders) (hc : next.1.cache = g.cache) :
    Minds g next where
  kept hu := .inl (by rwa [Gateway.cached?, hc])
  made hm := .inl (by rwa [Gateway.Made, hh] at hm)

theorem Minds.of_counts (hm : Minds g₁ next) (hc : g.Counts g₁) : Minds g next where
  kept hu := hm.kept (by rwa [Gateway.cached?, hc.cache])
  made hh := (hm.made hh).imp_left fun h => by rwa [Gateway.Made, hc.holders] at h

theorem minds_acquire (g : Gateway ρ σ) (url : String) (act : Activity τ σ) :
    Minds g ((g.acquire url).2, act) := by
  rcases g.acquire_cases url with ⟨h, -, hacq⟩ | ⟨hnone, hacq⟩ <;> rw [hacq]
  · exact minds_of_eq rfl rfl
  · constructor
    · intro u h hu
      refine .inl ((Table.get?_insert _ _ _ _).trans ?_)
      rw [if_neg]
      · exact hu
      · rintro rfl
        rw [hnone] at hu
        cases hu
    · intro h hm
      by_cases hh : h = g.holders.length
      · subst hh
        have hend : (g.addHolder url).2.endpoint g.holders.length = url := by
          rw [Gateway.endpoint, Gateway.holder_addHolder, if_pos rfl]
        refine .inr ((Table.get?_insert _ _ _ _).trans (if_pos hend))
      · refine .inl (Nat.lt_of_le_of_ne (Nat.le_of_lt_succ ?_) hh)
        simpa [Gateway.Made, Gateway.gauge, Gateway.count, Gateway.addHolder] using hm

theorem minds_connect (r : Reading) (inside again : Bool) (g : Gateway ρ σ) :
    Minds (τ := τ) g (connect r inside again g) := minds_acquire g r.get.endpoint _

theorem minds_evict {o : Option HolderId} (he : g.evict url = (o, g'))
    (hact : ∀ h, o = some h → act.Closes h) : Minds g (g', act) := by
  cases he
  refine ⟨fun {u h} hu => ?_, .inl⟩
  by_cases hurl : u = url
  · exact .inr (hact h (hurl ▸ hu))
  · exact .inl ((g.cached?_evict url u).trans ((if_neg hurl).trans hu))

theorem minds_invalidate (hact : act.Closes h) : Minds g (g.invalidate h, act) where
  kept {u h'} hu := by
    rw [Gateway.cached?_invalidate]
    split
    · next hc =>
      obtain ⟨rfl, hc⟩ := hc
      rw [hu] at hc
      cases hc
      exact .inr hact
    · exact .inl hu
  made hm := .inl (by rwa [Gateway.Made, Gateway.holders_invalidate] at hm)

theorem minds_answer (r : Response) (g : Gateway ρ σ) : Minds (τ := τ) g (answer r g) :=
  minds_of_eq rfl rfl

theorem Turn.minds {r : Reading} {inside : Bool} {failed : Fault → Prop}
    (ht : Turn h r inside failed g next) : Minds g next := by
  cases ht with
  | done hc => exact (minds_answer _ _).of_counts hc
  | fetch hc => exact minds_of_eq hc.holders hc.cache
  | giveUp hc f =>
    exact Minds.of_counts (minds_invalidate ⟨_, rfl, rfl, rfl⟩)
      (hc.trans (Gateway.counts_count _ fun m => { m with remoteErrors := m.remoteErrors + 1 }))

/-- **A step without an access forgets no holder.** -/
theorem Quiet.minds [Remote ρ τ σ] (hq : Quiet id g act next) : Minds g next := by
  cases hq with
  | misread hp hc => exact minds_of_eq hc.holders hc.cache
  | get hp hc => exact (minds_connect _ _ _ _).of_counts hc
  | drop hp hc he =>
    refine (minds_evict he ?_).of_counts hc
    rintro h ⟨⟩
    exact ⟨_, rfl, rfl, rfl⟩
  | @dropNone _ _ g₁ g' hp hc he =>
    have hanswer : Minds g₁ (g', (answer (τ := τ) (.ok []) g').2) := minds_evict he nofun
    exact Minds.of_counts ⟨hanswer.kept, hanswer.made⟩ hc
  | invalidate h => exact minds_invalidate ⟨_, rfl, rfl, rfl⟩
  | clear ha he =>
    refine minds_evict he ?_
    rintro h ⟨⟩
    exact ⟨_, rfl, rfl, rfl⟩
  | skip ha he => exact minds_evict he nofun
  | resume hr =>
    cases hr with
    | reconnect | refresh => exact minds_connect _ _ _ _
    | refuse | gaveUp | dropped => exact minds_answer _ _
    | goOn _ ht | settle _ ht => exact ht.minds
  | _ => exact minds_of_eq rfl rfl

end Activity

namespace System

variable [Remote ρ τ σ] {s s' : System ρ τ σ} {h : HolderId} {x : σ} {id : TaskId} {e : Event ρ σ}

/-! ### Holders -/

/-- **What an event leaves of the cache**: a holder leaves it only with the step of a task that is
about to close it, and whoever looks a holder up that did not exist finds it there from then on. -/
theorem minds_of_after? (he : s.after? e = some s') (hin : ∀ url, e ≠ .addHolder url) :
    (∀ {u h}, s.gateway.cached? u = some h →
      s'.gateway.cached? u = some h ∨ ∃ id, e = .advance id ∧ ClosingBy h s' id) ∧
    ∀ {h}, s'.gateway.Made h →
      s.gateway.Made h ∨ s'.gateway.cached? (s'.gateway.endpoint h) = some h := by
  have hsame (hh : s'.gateway.holders.length = s.gateway.holders.length)
      (hc : s'.gateway.cache = s.gateway.cache) :
      (∀ {u h}, s.gateway.cached? u = some h →
        s'.gateway.cached? u = some h ∨ ∃ id, e = .advance id ∧ ClosingBy h s' id) ∧
      ∀ {h}, s'.gateway.Made h →
        s.gateway.Made h ∨ s'.gateway.cached? (s'.gateway.endpoint h) = some h :=
    ⟨fun hu => .inl (by rwa [Gateway.cached?, hc]),
      fun hm => .inl (by rwa [Gateway.Made, hh] at hm)⟩
  cases e with
  | begin op | alter change | withdraw =>
    cases he
    exact hsame rfl rfl
  | abandon id =>
    cases he
    rcases abandon_cases s id with ⟨-, hs⟩ | ⟨t, -, hs⟩
    · rw [hs]
      exact ⟨.inl, .inl⟩
    · have hg : (s.abandon id).gateway = t.abandon id s.gateway := by rw [hs]
      rw [Task.abandon_eq] at hg
      cases ha : t.activity.access? <;> rw [ha] at hg
      · exact hsame (by rw [hg]; rfl) (by rw [hg]; rfl)
      · exact hsame (by rw [hg]; exact List.length_modify _ _ _) (by rw [hg]; rfl)
  | acquire url =>
    cases he
    have hm := Activity.minds_acquire (τ := τ) s.gateway url (.sweeping [])
    refine ⟨fun hu => (hm.kept hu).imp_right fun hclose => ?_, hm.made⟩
    obtain ⟨a, ha, -⟩ := hclose
    cases ha
  | addHolder url => exact absurd rfl (hin url)
  | advance id =>
    obtain ⟨t, t', ht, hstep, hs⟩ := advance_cases he
    have ht' : s'.task? id = some t' := (task?_of_set ht hs id).trans (if_pos rfl)
    rcases Task.step_cases hstep with ⟨line, -, hg, -⟩ | ⟨g₁, hact, hg⟩
    · exact hsame (by rw [hg]) (by rw [hg])
    · cases ha : t.activity.access? with
      | some a =>
        obtain ⟨n, hn, -⟩ := Activity.step_access ha hact
        exact hsame (by rw [hg]; exact hn.touches.length) (by rw [hg]; exact hn.touches.cache)
      | none =>
        have hm := (Activity.quiet_of_step ha hact).minds
        rw [hg]
        refine ⟨fun hu => (hm.kept hu).imp_right fun hcloses => ?_, hm.made⟩
        obtain ⟨a, ha', hclose⟩ := hcloses
        exact ⟨id, rfl, a, (access?_of_task? ht').trans ha', hclose⟩

/-- A holder that can be found in the cache, or that a task is closing, or that is done with. -/
def Tended (h : HolderId) (s : System ρ τ σ) : Prop :=
  s.gateway.cached? (s.gateway.endpoint h) = some h ∨ (∃ id, ClosingBy h s id) ∨ Done h s

/-- A task is not dropped unless that is what happens. -/
theorem task?_remains {t : Task τ σ} (ht : s.task? id = some t) (he : s.after? e = some s') :
    e = .abandon id ∨ ∃ t', s'.task? id = some t' := by
  cases e with
  | begin op =>
    cases he
    refine .inr ⟨t, ?_⟩
    rw [task?_begin, if_neg (Nat.ne_of_lt (lt_of_task? ht))]
    exact ht
  | advance id' =>
    obtain ⟨t₁, t₂, ht₁, -, hs⟩ := advance_cases he
    rw [task?_of_set ht₁ hs]
    split
    · exact .inr ⟨t₂, rfl⟩
    · exact .inr ⟨t, ht⟩
  | abandon id' =>
    cases he
    rcases abandon_cases s id' with ⟨-, hs⟩ | ⟨t₁, ht₁, hs⟩
    · rw [hs]
      exact .inr ⟨t, ht⟩
    · by_cases hid : id = id'
      · exact .inl (by rw [hid])
      · have htasks : (s.abandon id').tasks = s.tasks.set id' none := by rw [hs]
        rw [task?_of_set ht₁ htasks, if_neg hid]
        exact .inr ⟨t, ht⟩
  | acquire url | addHolder url | alter change | withdraw =>
    cases he
    exact .inr ⟨t, ht⟩

/-- **A holder that somebody looks after is looked after still**, unless a task is dropped that was
closing it; and one that has just been made is. -/
theorem tended_after? (hs : Disciplined s) (he : s.after? e = some s')
    (hin : ∀ url, e ≠ .addHolder url) (ht : s.gateway.Made h → Tended h s)
    (hm : s'.gateway.Made h) : Tended h s' ∨ ∃ id, e = .abandon id ∧ ClosingBy h s id := by
  obtain ⟨hkept, hmade⟩ := minds_of_after? he hin
  rcases hmade hm with hold | hnew
  · rcases ht hold with hc | ⟨id, hc⟩ | hd
    · rw [← (grows_of_after? he).endpoint hold] at hc
      exact .inl ((hkept hc).imp_right fun hclosing => .inl (hclosing.imp fun _ => And.right))
    · obtain ⟨a, ha, hclose⟩ := hc
      obtain ⟨t, ht, -⟩ := Option.bind_eq_some_iff.1 ha
      rcases task?_remains ht he with hdrop | ⟨t', ht'⟩
      · exact .inr ⟨id, hdrop, a, ha, hclose⟩
      · rcases ClosingBy.after? ⟨a, ha, hclose⟩ hs he with hc | hg | hd
        · exact .inl (.inr (.inl ⟨id, hc⟩))
        · rw [hg.1] at ht'
          cases ht'
        · exact .inl (.inr (.inr hd))
    · exact .inl (.inr (.inr (hd.after? hs he)))
  · exact .inl (.inl hnew)

/-! ### Sessions -/

/-- **A session that somebody has is had still**, unless the task that was closing it takes its next
step or is dropped. -/
theorem held_after? (hs : Disciplined s) (he : s.after? e = some s') (hh : Held h x s) :
    Held h x s' ∨ ∃ id, EndingBy h x s id ∧ (e = .advance id ∨ e = .abandon id) := by
  rcases hh with hk | ⟨id, a, ha, hah, hst⟩
  · exact .inl (hs.held_of_connected hk he)
  · have hstays (heq : s'.access? id = s.access? id) : Held h x s' :=
      .inr ⟨id, a, heq.trans ha, hah, hst⟩
    cases change_of_after? he with
    | @move id₁ a₁ g n _ ha₁ hstep hg hn hother =>
      by_cases hid : id = id₁
      · exact .inr ⟨id, ⟨a, ha, hah, hst⟩, .inl (by rw [hid])⟩
      · exact .inl (hstays (hother id hid))
    | @drop id₁ a₁ _ ha₁ hg hn hother =>
      by_cases hid : id = id₁
      · exact .inr ⟨id, ⟨a, ha, hah, hst⟩, .inr (by rw [hid])⟩
      · exact .inl (hstays (hother id hid))
    | quiet remote hg hother =>
      rcases hother id with hid | ⟨hid, -⟩
      · exact .inl (hstays hid)
      · rw [hid] at ha
        cases ha

/-- The next step of a task that is closing a session closes it. -/
theorem EndingBy.closes (hid : EndingBy h x s id) (he : s.after? (.advance id) = some s') :
    s'.gateway.remote = (Remote.close x s.gateway.remote).2 := by
  obtain ⟨a, ha, -, hst⟩ := hid
  cases change_of_after? he with
  | move ha₁ hstep hg =>
    rw [ha] at ha₁
    cases ha₁
    rw [hg]
    exact (hstep.of_ending hst).2
  | quiet remote hg hother hquiet =>
    rw [hquiet id (.inl rfl)] at ha
    cases ha

omit [Remote ρ τ σ] in
/-- A task that is closing the session of a holder is closing the holder. -/
theorem EndingBy.closingBy (hid : EndingBy h x s id) (hs : Disciplined s) : ClosingBy h s id := by
  obtain ⟨a, ha, hah, hst⟩ := hid
  have hsuits := hs.suits ha
  rw [hst] at hsuits
  exact ⟨a, ha, hah, hsuits⟩

end System

end AttributeGateway
