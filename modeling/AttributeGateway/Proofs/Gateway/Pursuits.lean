import AttributeGateway.Proofs.Gateway.Accounts

/-!
# Requests for attributes on their way

A request for attributes has holders connected and reads what its queries need, until it answers or
until a read through a holder fails so that it has to give up. Then it closes this holder, and tells
its client of the failure.

* `Get.Admits` — what a request accesses holders for, as long as it does not give up.
* `Activity.Seeks`, `Activity.Quits` — a request before it has given up, and afterwards.
* `Activity.GivesUp` — the step in between: a read through a holder has failed, and the holder is
  taken out of the cache.
* `Seeks.step`, `Quits.step` — there is no other way.
-/

namespace AttributeGateway

variable {ρ τ σ : Type}

/-- What a request accesses holders for as long as it does not give up: to have them connected, and
to read attributes that its queries need. -/
def Get.Admits (get : Get) : Aim → Prop
  | .connect => True
  | .fetch bean attributeName => ∃ q ∈ get.queries, q.Needs bean attributeName
  | .close => False

namespace Activity

variable {g g' : Gateway ρ σ} {get : Get} {act act' : Activity τ σ} {h : HolderId} {r : Reading}
  {again inside : Bool} {p : Purpose} {o : Outcome} {f : Fault} {line : String} {id : TaskId}
  {next : Gateway ρ σ × Activity τ σ}

/-- A request for attributes that has not given up. -/
inductive Seeks (get : Get) : Activity τ σ → Prop where
  /-- The line has not been read. -/
  | beginning {line : String} (hp : Command.parse line = .ok (.get get)) :
    Seeks get (.beginning (.answer line))
  /-- A holder is accessed. -/
  | requesting {p : Purpose} {r : Reading} {again : Bool} {a : Access τ σ} (hp : p.Asks r again)
      (hrest : r.rest ⊆ get.queries) (ha : get.Admits a.aim) : Seeks get (.requesting p a)
  /-- A holder has been accessed. -/
  | returning {p : Purpose} {r : Reading} {again : Bool} {h : HolderId} {o : Outcome}
      (hp : p.Asks r again) (hrest : r.rest ⊆ get.queries) : Seeks get (.returning p h o)
  /-- The request has been answered, but not told that a channel has failed. -/
  | answered {r : Response} (hr : ∀ detail, r ≠ .err .channelError detail) :
    Seeks get (.finished (.answered r))

/-- A request that has given up, because of what a read through a holder has failed with. -/
inductive Quits (h : HolderId) (f : Fault) : Activity τ σ → Prop where
  /-- The holder is being closed. -/
  | requesting {a : Access τ σ} (hh : a.holder = h) (ha : a.aim = .close) :
    Quits h f (.requesting (.givingUp f) a)
  /-- The holder has been closed. -/
  | returning {o : Outcome} : Quits h f (.returning (.givingUp f) h o)
  /-- The request has been told of the failure. -/
  | answered : Quits h f (.finished (.answered (.err .channelError f.detail)))

/-- A request gives up because a read through a holder has failed: not in a way that concerns the
query only, nor because the holder is closed, unless the query was read once more already. -/
inductive GivesUp (h : HolderId) (f : Fault) (g : Gateway ρ σ) :
    Activity τ σ → Gateway ρ σ × Activity τ σ → Prop where
  /-- The only way. -/
  | fetched {r : Reading} {again : Bool} {g₁ : Gateway ρ σ} (hi : f.itemLevel = false)
      (ha : f.isHolderClosed → again = true) (hc : g.Counts g₁) :
    GivesUp h f g (.returning (.fetching r again) h (.failed f)) (giveUp h f g₁)

theorem GivesUp.quits (hg : GivesUp h f g act next) : next.2.Quits h f := by
  cases hg with
  | fetched => exact .requesting rfl rfl

/-! ### Before giving up -/

theorem seeks_connect (hrest : r.rest ⊆ get.queries) :
    (connect (τ := τ) r inside again g).2.Seeks get :=
  .requesting (.connecting r inside again) hrest trivial

/-- A request that goes on with its queries goes on with theirs, or gives up because of the first
one. -/
theorem Turn.seeks {failed : Fault → Prop} (ht : Turn h r inside failed g next)
    (hrest : r.rest ⊆ get.queries) (hline : Command.parse line = .ok (.get get)) :
    next.2.Seeks get ∨
      ∃ f g₁, failed f ∧ f.itemLevel = false ∧ g.Counts g₁ ∧
        next = Activity.giveUp h f g₁ := by
  cases ht with
  | done => exact .inl (.answered nofun)
  | fetch hc r' again' bean attributeName hget hrest' hin hq =>
    obtain ⟨q, hmem, hq⟩ := hq
    exact .inl (.requesting (.fetching r' again') (List.Subset.trans hrest' hrest)
      ⟨q, hrest hmem, hq⟩)
  | giveUp hc f hi hf =>
    rcases hf with hf | ⟨q, hmem, hpath⟩
    · exact .inr ⟨f, _, hf, hi, hc, rfl⟩
    · rw [Command.itemLevel_of_query hline (hrest hmem) hpath] at hi
      cases hi

/-- Behind an access a request goes on, or gives up because a read has failed. -/
theorem Resumed.seeks (hr : Resumed h g p o next) (hp : p.Asks r again)
    (hrest : r.rest ⊆ get.queries) (ha : Aimed (.returning p h o : Activity τ σ))
    (hline : Command.parse line = .ok (.get get)) :
    next.2.Seeks get ∨ ∃ f, GivesUp h f g (.returning p h o) next := by
  cases hr with
  | reconnect | refresh =>
    cases hp
    exact .inl (seeks_connect hrest)
  | @refuse r inside again' f hcl =>
    refine .inl (.answered fun detail hd => ?_)
    have hcode : f.code = .connectionFailed := ha
    cases hcode.symm.trans (Response.err.inj hd).1
  | goOn ho ht =>
    cases hp
    rcases ht.seeks hrest hline with hs | ⟨f, g₁, hf, -⟩
    · exact .inl hs
    · exact hf.elim
  | settle hagain ht =>
    cases hp
    rcases ht.seeks hrest hline with hs | ⟨f, g₁, ho | ⟨v, -, hsel⟩, hi, hc, rfl⟩
    · exact .inl hs
    · subst ho
      exact .inr ⟨f, .fetched hi (hagain f rfl) hc⟩
    · rw [itemLevel_of_select hsel] at hi
      cases hi
  | gaveUp | dropped => cases hp

variable [Remote ρ τ σ]

/-- **A request for attributes** goes on, or gives up because a read through a holder has failed. -/
theorem Seeks.step (hs : act.Seeks get) (ha : act.Aimed)
    (hline : Command.parse line = .ok (.get get)) (h : act.step id g = some (g', act')) :
    act'.Seeks get ∨ ∃ h f, GivesUp h f g act (g', act') := by
  cases hs with
  | beginning hp =>
    obtain ⟨g₁, -, hnext⟩ := (quiet_of_step rfl h).of_get hp
    cases hnext
    exact .inl (seeks_connect (List.Subset.refl _))
  | requesting hp hrest haim =>
    obtain ⟨n, hn, rfl⟩ := step_access rfl h
    cases n with
    | inl a' =>
      refine .inl (.requesting hp hrest ?_)
      rw [hn.same.2]
      exact haim
    | inr o => exact .inl (.returning hp hrest)
  | returning hp hrest =>
    rcases (quiet_of_step rfl h).resumed.seeks hp hrest ha hline with hs | ⟨f, hg⟩
    · exact .inl hs
    · exact .inr ⟨_, f, hg⟩
  | answered => cases h

/-! ### Afterwards -/

/-- **A request that has given up** closes the holder and answers. -/
theorem Quits.step (hq : act.Quits h f) (hs : act.step id g = some (g', act')) :
    act'.Quits h f := by
  cases hq with
  | requesting hh ha =>
    obtain ⟨n, hn, rfl⟩ := step_access rfl hs
    cases n with
    | inl a' => exact .requesting (hn.same.1.trans hh) (hn.same.2.trans ha)
    | inr o =>
      subst hh
      exact .returning
  | returning =>
    cases hs
    exact .answered
  | answered => cases hs

end Activity

namespace System

variable [Remote ρ τ σ]

/-- A request gives up with its next step, because of a holder and a fault. -/
def GivesUp (s : System ρ τ σ) (id : TaskId) (h : HolderId) (f : Fault) : Prop :=
  ∃ t next, s.task? id = some t ∧ t.activity.step id s.gateway = some next ∧
    Activity.GivesUp h f s.gateway t.activity next

end System

end AttributeGateway
