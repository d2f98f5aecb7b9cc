import AttributeGateway.Proofs.Gateway.Answers
import AttributeGateway.Proofs.Gateway.Runs

/-!
# How many steps requests take

A request takes so many steps at most, whatever other tasks do meanwhile and whatever the remote
side does: an access goes from stage to stage, a query is read at most twice, and each holder that
has been closed is replaced once. So tasks that answer requests cannot go on forever; as long as no
further ones begin, they take all together as many steps as the sum says.

* `Activity.isRequest` — the tasks that answer requests.
* `Activity.effort` — how many steps are left at most; `Activity.effort_step` says that each step
  takes one of them.
* `System.length_le_effort` — a run in which tasks only go on is no longer than the sum.
-/

namespace AttributeGateway

variable {ρ τ σ : Type}

/-! ### Accesses -/

/-- How many steps are left of an access at most. -/
def Stage.effort : Stage τ σ → Nat
  | .beginning => 8
  | .sharing => 7
  | .upgrading => 6
  | .excluding => 5
  | .establishing _ => 4
  | .guarding => 3
  | .reading _ => 2
  | .ending _ => 1

theorem Stage.effort_pos (stage : Stage τ σ) : 0 < stage.effort := by
  cases stage <;> exact Nat.succ_pos _

theorem Access.Step.effort [Remote ρ τ σ] {g g' : Gateway ρ σ} {id : TaskId} {a a' : Access τ σ}
    (h : a.Step id g g' (.inl a')) : a'.stage.effort < a.stage.effort := by
  generalize hn : (Sum.inl a' : Next τ σ) = n at h
  cases h with
  | askToShare hst | find hst | giveWay hst | drop hst | share hst | attempt hst | establish hst
  | use hst =>
    cases hn
    rw [hst]
    simp [Stage.effort]
  | askToExclude hst =>
    cases hn
    rcases hst with ⟨hst, -⟩ | hst <;> simp [hst, Stage.effort]
  | refuse | shut | miss | fail | lose | join | read | finish => cases hn

/-! ### Requests -/

/-- How many steps are left of a request at most, behind an access for a purpose. -/
def Purpose.effort : Purpose → Nat
  | .connecting r false again => 36 * r.rest.length + if again then 46 else 55
  | .connecting r true again => 36 * r.rest.tail.length + if again then 55 else 64
  | .fetching r again => 36 * r.rest.tail.length + if again then 46 else 73
  | .givingUp _ | .dropping => 1

/-- How many steps it takes at most to answer a line that has been taken up. -/
def Command.effort (line : String) : Nat :=
  match parse line with
  | .ok (.get request) => 36 * request.queries.length + 64
  | _ => 10

namespace Activity

variable {g g' : Gateway ρ σ} {id : TaskId} {act act' : Activity τ σ} {h : HolderId} {r : Reading}

/-- Whether a task answers a request line. -/
def isRequest : Activity τ σ → Bool
  | .beginning (.submit _) | .beginning (.answer _) | .queueing _ | .requesting _ _
  | .returning _ _ _ | .finished (.answered _) => true
  | _ => false

/-- How many steps are left of a request at most. -/
def effort : Activity τ σ → Nat
  | .beginning (.submit line) => Command.effort line + 2
  | .queueing line => Command.effort line + 1
  | .beginning (.answer line) => Command.effort line
  | .requesting p a => p.effort + a.stage.effort
  | .returning p _ _ => p.effort
  | _ => 0

/-- A request goes on as a request, with so many steps left at most. -/
def Spends (act : Activity τ σ) (n : Nat) : Prop := act.effort ≤ n ∧ act.isRequest = true

theorem Spends.mono {n n' : Nat} (hw : act.Spends n) (hn : n ≤ n') : act.Spends n' :=
  ⟨Nat.le_trans hw.1 hn, hw.2⟩

theorem spends_answer (r : Response) (g : Gateway ρ σ) : (answer (τ := τ) r g).2.Spends 0 :=
  ⟨Nat.le_refl _, rfl⟩

theorem spends_connect (r : Reading) (inside again : Bool) (g : Gateway ρ σ) :
    (connect (τ := τ) r inside again g).2.Spends ((Purpose.connecting r inside again).effort + 8) :=
  ⟨Nat.le_refl _, rfl⟩

theorem spends_giveUp (h : HolderId) (f : Fault) (g : Gateway ρ σ) :
    (giveUp (τ := τ) h f g).2.Spends 9 := ⟨Nat.le_refl _, rfl⟩

/-- A request goes on with the first of its queries that has to be read. -/
theorem spends_proceed (h : HolderId) (get : Get) (lines : List String) (rest : List Query)
    (g : Gateway ρ σ) : (proceed (τ := τ) h get lines rest g).2.Spends (36 * rest.length + 45) := by
  induction rest generalizing lines g with
  | nil => exact (spends_answer _ g).mono (Nat.zero_le _)
  | cons q queries ih =>
    rw [proceed]
    split
    · refine ⟨?_, rfl⟩
      simp only [effort, Purpose.effort, Stage.effort, List.tail_cons, List.length_cons,
        Bool.false_eq_true, if_false]
      omega
    · split
      · exact (ih _ _).mono (by rw [List.length_cons]; omega)
      · exact (spends_giveUp h _ g).mono (by omega)

/-- Behind the first query those behind it are left. -/
theorem spends_settle (h : HolderId) (r : Reading) (found : Except Fault Value)
    (g : Gateway ρ σ) :
    (settle (τ := τ) h r found g).2.Spends (36 * r.rest.tail.length + 45) := by
  unfold settle
  split
  · split <;> exact spends_proceed ..
  · split
    · exact spends_proceed ..
    · exact (spends_giveUp h _ g).mono (by omega)

theorem spends_fetchAgain (h : HolderId) (r : Reading) (g : Gateway ρ σ) :
    (fetchAgain (τ := τ) h r g).2.Spends (36 * r.rest.tail.length + 54) := by
  rw [fetchAgain]
  split
  · exact ⟨Nat.le_refl _, rfl⟩
  · next hhead =>
    -- The first query is not read; it is answered at once, or the request is given up.
    cases hrest : r.rest with
    | nil => exact (spends_answer _ g).mono (Nat.zero_le _)
    | cons q queries =>
      obtain ⟨bean, rawPath, path⟩ := q
      cases path with
      | ok p => exact absurd (by rw [hrest]; rfl) (hhead bean rawPath p)
      | error f =>
        simp only [proceed]
        split
        · exact (spends_proceed ..).mono (Nat.add_le_add_left (by decide) _)
        · exact (spends_giveUp h _ g).mono (by omega)

/-- Behind an access a request goes on with fewer steps left. -/
theorem spends_resume (p : Purpose) (h : HolderId) (o : Outcome) (g : Gateway ρ σ) :
    ∃ n, n < p.effort ∧ (resume (τ := τ) p h o g).2.Spends n := by
  unfold resume
  split
  · next r inside again f =>
    split
    · next hf =>
      simp only [Bool.and_eq_true, Bool.not_eq_true'] at hf
      refine ⟨_, ?_, spends_connect r inside true g⟩
      cases inside <;> simp [Purpose.effort, hf.2]
    · refine ⟨0, ?_, spends_answer _ g⟩
      cases inside <;> cases again <;> simp [Purpose.effort]
  · next r inside again _ =>
    cases inside with
    | false =>
      refine ⟨_, ?_, spends_proceed h r.get r.lines r.rest g⟩
      cases again <;> simp [Purpose.effort]
    | true =>
      refine ⟨_, ?_, spends_fetchAgain h r g⟩
      cases again <;> simp [Purpose.effort]
  · next r again f =>
    split
    · next hf =>
      simp only [Bool.and_eq_true, Bool.not_eq_true'] at hf
      refine ⟨_, ?_, spends_connect r true false g⟩
      simp [Purpose.effort, hf.2]
    · refine ⟨_, ?_, spends_settle h r _ g⟩
      cases again <;> simp [Purpose.effort]
  · next r again v =>
    refine ⟨_, ?_, spends_settle h r _ g⟩
    cases again <;> simp [Purpose.effort]
  · next r again _ _ =>
    refine ⟨_, ?_, spends_settle h r _ g⟩
    cases again <;> simp [Purpose.effort]
  · exact ⟨0, Nat.one_pos, spends_answer _ g⟩
  · exact ⟨0, Nat.one_pos, spends_answer _ g⟩

/-- A line that is taken up is answered, or a holder is accessed. -/
theorem spends_beginLine (line : String) (g : Gateway ρ σ) :
    ∃ n, n < Command.effort line ∧ (beginLine (τ := τ) line g).2.Spends n := by
  rw [Command.effort]
  simp only [beginLine]
  cases Command.parse line with
  | error f => exact ⟨0, by simp, Nat.le_refl _, rfl⟩
  | ok c =>
    cases c with
    | get request =>
      refine ⟨_, ?_, spends_connect ⟨request, [], request.queries⟩ false false _⟩
      simp [Purpose.effort]
    | close url =>
      simp only
      split
      · exact ⟨9, by simp, Nat.le_refl _, rfl⟩
      · exact ⟨0, by simp, spends_answer _ _⟩

/-- **Each step of a request takes one of the steps that were left**, and the request goes on. -/
theorem effort_step [Remote ρ τ σ] (hs : act.step id g = some (g', act'))
    (hr : act.isRequest = true) : act'.effort < act.effort ∧ act'.isRequest = true := by
  have hless {m n : Nat} (hn : n < m) (hw : act'.Spends n) :
      act'.effort < m ∧ act'.isRequest = true := ⟨Nat.lt_of_le_of_lt hw.1 hn, hw.2⟩
  cases act with
  | beginning op =>
    cases op with
    | submit line =>
      obtain rfl : Activity.queueing line = act' := congrArg Prod.snd (Option.some.inj hs)
      exact ⟨Nat.lt_succ_self _, rfl⟩
    | answer line =>
      obtain rfl : (beginLine line g).2 = act' := congrArg Prod.snd (Option.some.inj hs)
      obtain ⟨n, hn, hw⟩ := spends_beginLine line g
      exact hless hn hw
    | _ => cases hr
  | requesting p a =>
    obtain ⟨n, hn, rfl⟩ := step_access rfl hs
    cases n with
    | inl a' => exact ⟨Nat.add_lt_add_left hn.effort _, rfl⟩
    | inr o => exact ⟨Nat.lt_add_of_pos_right a.stage.effort_pos, rfl⟩
  | returning p h o =>
    obtain rfl : (resume p h o g).2 = act' := congrArg Prod.snd (Option.some.inj hs)
    obtain ⟨n, hn, hw⟩ := spends_resume p h o g
    exact hless hn hw
  | queueing | finished => cases hs
  | _ => cases hr

end Activity

theorem Task.effort_step [Remote ρ τ σ] {g g' : Gateway ρ σ} {id : TaskId} {t t' : Task τ σ}
    (hs : t.step id g = some (g', t')) (hr : t.activity.isRequest = true) :
    t'.activity.effort < t.activity.effort ∧ t'.activity.isRequest = true := by
  rcases Task.step_cases hs with ⟨line, hline, -, hact | hact⟩ | ⟨g₁, hact, -⟩
  · rw [hline, hact]
    exact ⟨Nat.succ_pos _, rfl⟩
  · rw [hline, hact]
    exact ⟨Nat.lt_succ_self _, rfl⟩
  · exact Activity.effort_step hact hr

/-! ### Systems -/

/-- What a sum loses when a summand is replaced by a smaller one. -/
theorem sum_map_set_lt {α : Type} {f : α → Nat} {l : List α} {i : Nat} {a b : α}
    (hi : l[i]? = some a) (hlt : f b < f a) : ((l.set i b).map f).sum < (l.map f).sum := by
  induction l generalizing i with
  | nil => cases hi
  | cons c l ih =>
    cases i with
    | zero =>
      cases hi
      simpa using hlt
    | succ i => simpa using ih hi

namespace System

variable {s s' : System ρ τ σ} {id : TaskId} {es : List (Event ρ σ)}

/-- Every task answers a request line. -/
def Requests (s : System ρ τ σ) : Prop :=
  ∀ id t, s.task? id = some t → t.activity.isRequest = true

/-- How many steps are left of all tasks at most. -/
def effort (s : System ρ τ σ) : Nat :=
  (s.tasks.map fun o => o.elim 0 (·.activity.effort)).sum

variable [Remote ρ τ σ]

theorem Requests.advance (hs : Requests s) (h : s.advance? id = some s') : Requests s' := by
  obtain ⟨t, t', ht, hstep, htasks⟩ := advance_cases h
  intro id' t₁ ht₁
  rw [task?_of_set ht htasks] at ht₁
  split at ht₁
  · cases ht₁
    exact (Task.effort_step hstep (hs id t ht)).2
  · exact hs id' t₁ ht₁

/-- Each step takes one of the steps that were left. -/
theorem effort_advance (hs : Requests s) (h : s.advance? id = some s') : s'.effort < s.effort := by
  obtain ⟨t, t', ht, hstep, htasks⟩ := advance_cases h
  rw [effort, htasks]
  exact sum_map_set_lt (Option.join_eq_some_iff.1 ht)
    (Task.effort_step hstep (hs id t ht)).1

/-- **Requests that only go on do so for a bounded time.** -/
theorem length_le_effort (hs : Requests s) (hr : Run s es s')
    (hes : ∀ e ∈ es, ∃ id, e = .advance id) : Requests s' ∧ es.length + s'.effort ≤ s.effort := by
  induction hr with
  | nil => exact ⟨hs, by simp⟩
  | @snoc u s' es e _ he ih =>
    obtain ⟨hu, hle⟩ := ih fun e he => hes e (List.mem_append_left _ he)
    obtain ⟨id, rfl⟩ := hes e (List.mem_append_right _ (List.mem_singleton_self e))
    have hlt := effort_advance hu he
    rw [List.length_append, List.length_singleton]
    exact ⟨hu.advance he, by omega⟩

end System

end AttributeGateway
