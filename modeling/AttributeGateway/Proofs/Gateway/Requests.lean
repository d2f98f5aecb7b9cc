import AttributeGateway.Gateway.Task
import AttributeGateway.Proofs.Gateway.Holders

/-!
# What a request does next

Behind an access to a holder a request does one of a few things: it answers, it reads the next
attribute through the same holder, it looks for a fresh holder because this one has been closed, or
it gives up and closes the holder. Queries whose paths cannot be read are answered by the sentinel
on the way, which only counts.

* `Turn` — how a request goes on with its queries; `turn_proceed`, `turn_settle`, `turn_fetchAgain`.
* `Resumed` — what a request does behind an access, by what the access was for and what it came to;
  `resumed_resume` says that there is nothing else.
-/

namespace AttributeGateway

/-- A query for which an attribute of a bean is read: only one whose path could be read. -/
def Query.Needs (q : Query) (bean attributeName : String) : Prop :=
  q.bean = bean ∧ ∃ p, q.path = .ok p ∧ p.attributeName = attributeName

namespace Activity

variable {ρ τ σ : Type} {g g' : Gateway ρ σ} {h : HolderId} {get : Get} {r : Reading}
  {failed failed' : Fault → Prop} {inside : Bool} {next : Gateway ρ σ × Activity τ σ}

/-- How a request goes on with its queries through a holder, when the first of them may have failed
in some ways. -/
inductive Turn (h : HolderId) (r : Reading) (inside : Bool) (failed : Fault → Prop)
    (g : Gateway ρ σ) : Gateway ρ σ × Activity τ σ → Prop where
  /-- All queries have been answered. -/
  | done {g' : Gateway ρ σ} (hc : g.Counts g') (lines : List String) :
    Turn h r inside failed g (answer (.ok lines) g')
  /-- An attribute is read that one of the queries needs; a second time only if that is why there is
  another holder. -/
  | fetch {g' : Gateway ρ σ} (hc : g.Counts g') (r' : Reading) (again : Bool)
      (bean attributeName : String) (hget : r'.get = r.get) (hrest : r'.rest ⊆ r.rest)
      (ha : again = true → inside = true) (hq : ∃ q ∈ r.rest, q.Needs bean attributeName) :
    Turn h r inside failed g
      (g', .requesting (.fetching r' again) { holder := h, aim := .fetch bean attributeName })
  /-- The request is given up, because of the first query or because of the path of another. -/
  | giveUp {g' : Gateway ρ σ} (hc : g.Counts g') (f : Fault) (hi : f.itemLevel = false)
      (hf : failed f ∨ ∃ q ∈ r.rest, q.path = .error f) :
    Turn h r inside failed g (giveUp h f g')

/-- Going on after having counted and with fewer queries. -/
theorem Turn.of_counts {r' : Reading} (ht : Turn h r' inside (fun _ => False) g' next)
    (hc : g.Counts g') (hget : r'.get = r.get) (hrest : r'.rest ⊆ r.rest) :
    Turn h r inside failed g next := by
  cases ht with
  | done hc' lines => exact .done (hc.trans hc') lines
  | fetch hc' r'' again bean attributeName hget' hrest' ha hq =>
    obtain ⟨q, hmem, hq⟩ := hq
    exact .fetch (hc.trans hc') r'' again bean attributeName (hget'.trans hget)
      (List.Subset.trans hrest' hrest) ha ⟨q, hrest hmem, hq⟩
  | giveUp hc' f hi hf =>
    obtain ⟨q, hq, hqf⟩ := hf.resolve_left not_false
    exact .giveUp (hc.trans hc') f hi (.inr ⟨q, hrest hq, hqf⟩)

theorem turn_proceed (h : HolderId) (get : Get) (lines : List String) (rest : List Query)
    (g : Gateway ρ σ) :
    Turn (τ := τ) h ⟨get, lines, rest⟩ inside (fun _ => False) g
      (proceed h get lines rest g) := by
  induction rest generalizing lines g with
  | nil => exact .done (.refl g) lines
  | cons q queries ih =>
    rw [proceed]
    split
    · next p hp =>
      exact .fetch (.refl g) _ false _ _ rfl (List.Subset.refl _) nofun
        ⟨q, List.mem_cons_self, rfl, p, hp, rfl⟩
    · next f hf =>
      split
      · exact (ih _ _).of_counts g.counts_countUnavailable rfl (List.subset_cons_self _ _)
      · next hi =>
        exact .giveUp (.refl g) f (Bool.eq_false_iff.2 hi)
          (.inr ⟨q, List.mem_cons_self, hf⟩)

theorem turn_settle (h : HolderId) (r : Reading) (found : Except Fault Value)
    (g : Gateway ρ σ) :
    Turn (τ := τ) h r inside (fun f => found = .error f) g (settle h r found g) := by
  have hproceed {g' : Gateway ρ σ} (hc : g.Counts g') (lines : List String) :
      Turn (τ := τ) h r inside (fun f => found = .error f) g
        (proceed h r.get lines r.rest.tail g') :=
    (turn_proceed h _ lines _ g').of_counts hc rfl (List.tail_sublist _).subset
  unfold settle
  split
  · split
    · exact hproceed (.refl g) _
    · exact hproceed g.counts_countUnavailable _
  · next f =>
    split
    · exact hproceed g.counts_countUnavailable _
    · next hi => exact .giveUp (.refl g) f (Bool.eq_false_iff.2 hi) (.inl rfl)

theorem turn_fetchAgain (h : HolderId) (r : Reading) (g : Gateway ρ σ) :
    Turn (τ := τ) h r true (fun _ => False) g (fetchAgain h r g) := by
  rw [fetchAgain]
  split
  · next bean rawPath p hhead =>
    exact .fetch (.refl g) r true _ _ rfl (List.Subset.refl _) (fun _ => rfl)
      ⟨_, List.mem_of_mem_head? hhead, rfl, p, rfl, rfl⟩
  · exact (turn_proceed h _ _ _ g).of_counts (.refl g) rfl (List.Subset.refl _)

/-- Why the first of the remaining queries could not be answered. -/
def Unread (r : Reading) (o : Outcome) (f : Fault) : Prop :=
  o = .failed f ∨ ∃ v, o = .fetched v ∧ select r v = .error f

/-- What a request does behind an access to a holder. -/
inductive Resumed (h : HolderId) (g : Gateway ρ σ) :
    Purpose → Outcome → Gateway ρ σ × Activity τ σ → Prop where
  /-- The holder to be connected has been closed: another one is connected. -/
  | reconnect {r : Reading} {inside : Bool} {f : Fault} (hf : f.isHolderClosed) :
    Resumed h g (.connecting r inside false) (.failed f) (connect r inside true g)
  /-- No holder could be connected. -/
  | refuse {r : Reading} {inside again : Bool} {f : Fault}
      (hf : f.isHolderClosed → again = true) :
    Resumed h g (.connecting r inside again) (.failed f) (answer (.ofFault f) g)
  /-- The holder is connected. -/
  | goOn {r : Reading} {inside again : Bool} {o : Outcome} {next : Gateway ρ σ × Activity τ σ}
      (ho : ∀ f, o ≠ .failed f) (ht : Turn h r inside (fun _ => False) g next) :
    Resumed h g (.connecting r inside again) o next
  /-- The holder to be read through has been closed: another one is connected. -/
  | refresh {r : Reading} {f : Fault} (hf : f.isHolderClosed) :
    Resumed h g (.fetching r false) (.failed f) (connect r true false g)
  /-- The attribute has been read, or could not be. -/
  | settle {r : Reading} {again : Bool} {o : Outcome} {next : Gateway ρ σ × Activity τ σ}
      (hf : ∀ f, o = .failed f → f.isHolderClosed → again = true)
      (ht : Turn h r false (Unread r o) g next) :
    Resumed h g (.fetching r again) o next
  /-- The holder whose channel has failed is closed. -/
  | gaveUp {f : Fault} {o : Outcome} :
    Resumed h g (.givingUp f) o (answer (.err .channelError f.detail) g)
  /-- The connection is dropped. -/
  | dropped {o : Outcome} : Resumed h g .dropping o (answer (.ok []) g)

theorem Turn.mono (hf : ∀ f, failed f → failed' f) (ht : Turn h r inside failed g next) :
    Turn h r inside failed' g next := by
  cases ht with
  | done hc lines => exact .done hc lines
  | fetch hc r' again bean attributeName hget hrest ha hq =>
    exact .fetch hc r' again bean attributeName hget hrest ha hq
  | giveUp hc f hi hf' => exact .giveUp hc f hi (hf'.imp_left (hf f))

/-- **A request does nothing else** behind an access. -/
theorem resumed_resume (p : Purpose) (h : HolderId) (o : Outcome) (g : Gateway ρ σ) :
    Resumed (τ := τ) h g p o (resume p h o g) := by
  unfold resume
  split
  · next r inside again f =>
    split
    · next hf =>
      simp only [Bool.and_eq_true, Bool.not_eq_true'] at hf
      obtain ⟨hf, rfl⟩ := hf
      exact .reconnect hf
    · next hf =>
      simp only [Bool.and_eq_true, Bool.not_eq_true', not_and, Bool.not_eq_false] at hf
      exact .refuse hf
  · next r inside again ho =>
    refine .goOn (fun f hf => ho f hf) ?_
    cases inside with
    | false => exact turn_proceed h _ _ _ g
    | true => exact turn_fetchAgain h r g
  · next r again f =>
    split
    · next hf =>
      simp only [Bool.and_eq_true, Bool.not_eq_true'] at hf
      obtain ⟨hf, rfl⟩ := hf
      exact .refresh hf
    · next hf =>
      simp only [Bool.and_eq_true, Bool.not_eq_true', not_and, Bool.not_eq_false] at hf
      refine .settle (fun f' hf' => by cases hf'; exact hf) ((turn_settle h r _ g).mono ?_)
      intro f' hf'
      cases hf'
      exact .inl rfl
  · next r again v =>
    refine .settle nofun ((turn_settle h r _ g).mono ?_)
    intro f hf
    exact .inr ⟨v, rfl, hf⟩
  · next r again ho _ =>
    refine .settle (fun f hf => absurd hf (ho f)) ((turn_settle h r _ g).mono ?_)
    intro f hf
    cases hf
  · exact .gaveUp
  · exact .dropped

end Activity

end AttributeGateway
