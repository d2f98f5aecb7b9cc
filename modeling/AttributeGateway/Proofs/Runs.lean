import AttributeGateway.Run
import Mathlib.Data.List.Induction

/-!
# What runs are like

The events of a run determine the states that it goes through, so an event of a run has one state
before it and one behind it. Some statements hold only for runs that respect a condition; a
condition is on an event and on the state that it happens to.

* `run_iff` — a run computes the state behind its events.
* `Run.preserves`, `RunWhere.preserves` — what every event preserves holds at the end of a run.
* `RunWhere` — a run in which every event meets a condition.
* `Visits`, `visits_snoc` — the states that a run passes through.
* `Occurs`, `occurs_snoc` — the events of a run.
-/

namespace AttributeGateway

variable {S E : Type} {after? : S → E → Option S} {s s' s'' u u' : S} {e e' : E} {es es' : List E}

/-! ### Runs -/

/-- The state behind a list of events is determined by the state before it. -/
theorem run_iff : Run after? s es s' ↔ es.foldlM after? s = some s' := by
  constructor
  · intro h
    induction h with
    | nil => rfl
    | snoc _ he ih => rw [List.foldlM_append, ih]; simpa using he
  · intro h
    induction es using List.reverseRecOn generalizing s' with
    | nil =>
      cases h
      exact .nil s
    | append_singleton es e ih =>
      rw [List.foldlM_append, Option.bind_eq_bind, Option.bind_eq_some_iff] at h
      obtain ⟨u, hu, h⟩ := h
      exact .snoc (ih hu) (by simpa using h)

theorem run_nil : Run after? s [] s' ↔ s' = s := by
  rw [run_iff]
  exact Option.some_inj.trans eq_comm

theorem run_cons :
    Run after? s (e :: es) s' ↔ ∃ s₁, after? s e = some s₁ ∧ Run after? s₁ es s' := by
  simp only [run_iff, List.foldlM_cons, Option.bind_eq_bind, Option.bind_eq_some_iff]

/-- The state behind events that can happen one after the other. -/
def behind (after? : S → E → Option S) (s : S) (es : List E) : S := (es.foldlM after? s).getD s

theorem run_behind (h : (es.foldlM after? s).isSome) : Run after? s es (behind after? s es) := by
  obtain ⟨u, hu⟩ := Option.isSome_iff_exists.1 h
  rw [behind, hu]
  exact run_iff.2 hu

theorem Run.unique (h : Run after? s es u) (h' : Run after? s es u') : u = u' :=
  Option.some.inj ((run_iff.1 h).symm.trans (run_iff.1 h'))

theorem Run.trans (h : Run after? s es s') (h' : Run after? s' es' s'') :
    Run after? s (es ++ es') s'' := by
  rw [run_iff] at h h' ⊢
  rw [List.foldlM_append, h]
  exact h'

/-- What every event preserves holds at the end of a run if it holds at the beginning. -/
theorem Run.preserves {I : S → Prop} (h : Run after? s es s')
    (hI : ∀ {u e u'}, I u → after? u e = some u' → I u') (hs : I s) : I s' := by
  induction h with
  | nil => exact hs
  | snoc _ he ih => exact hI ih he

/-! ### Conditions on events -/

/-- A run in which each event meets a condition on it and on the state that it happens to. -/
inductive RunWhere (after? : S → E → Option S) (P : S → E → Prop) : S → List E → S → Prop where
  /-- Nothing has happened. -/
  | nil (s : S) : RunWhere after? P s [] s
  /-- One more thing happens. -/
  | snoc {s s' s'' : S} {es : List E} {e : E} :
    RunWhere after? P s es s' → P s' e → after? s' e = some s'' →
      RunWhere after? P s (es ++ [e]) s''

variable {P Q : S → E → Prop}

theorem RunWhere.run (h : RunWhere after? P s es s') : Run after? s es s' := by
  induction h with
  | nil => exact .nil _
  | snoc _ _ he ih => exact .snoc ih he

theorem RunWhere.mono (h : RunWhere after? P s es s') (hPQ : ∀ u e, P u e → Q u e) :
    RunWhere after? Q s es s' := by
  induction h with
  | nil => exact .nil _
  | snoc _ hP he ih => exact .snoc ih (hPQ _ _ hP) he

/-- A run in which no event can fail to meet the condition. -/
theorem Run.runWhere (h : Run after? s es s') (hP : ∀ u, ∀ e ∈ es, P u e) :
    RunWhere after? P s es s' := by
  induction h with
  | nil => exact .nil _
  | snoc _ he ih =>
    exact .snoc (ih fun u e he => hP u e (List.mem_append_left _ he))
      (hP _ _ (List.mem_append_right _ (List.mem_singleton_self _))) he

theorem RunWhere.trans (h : RunWhere after? P s es s') (h' : RunWhere after? P s' es' s'') :
    RunWhere after? P s (es ++ es') s'' := by
  induction h' with
  | nil => rwa [List.append_nil]
  | snoc _ hP he ih =>
    rw [← List.append_assoc]
    exact .snoc ih hP he

/-- What every event that meets the condition preserves holds at the end of a run if it holds at the
beginning. -/
theorem RunWhere.preserves {I : S → Prop} (h : RunWhere after? P s es s')
    (hI : ∀ {u e u'}, I u → P u e → after? u e = some u' → I u') (hs : I s) : I s' := by
  induction h with
  | nil => exact hs
  | snoc _ hP he ih => exact hI ih hP he

/-- A run of two lists of events passes through a state between them. -/
theorem RunWhere.of_append (h : RunWhere after? P s (es ++ es') s'') :
    ∃ s', RunWhere after? P s es s' ∧ RunWhere after? P s' es' s'' := by
  induction es' using List.reverseRecOn generalizing s'' with
  | nil =>
    rw [List.append_nil] at h
    exact ⟨s'', h, .nil _⟩
  | append_singleton es' e ih =>
    rw [← List.append_assoc] at h
    generalize hes : es ++ es' ++ [e] = es₁ at h
    cases h with
    | nil => simp at hes
    | snoc hr hP hs =>
      obtain ⟨rfl, he⟩ := List.append_inj' hes rfl
      cases he
      obtain ⟨s', hr₁, hr₂⟩ := ih hr
      exact ⟨s', hr₁, .snoc hr₂ hP hs⟩

/-! ### The states of a run -/

/-- A state that a run passes through. -/
def Visits (after? : S → E → Option S) (s : S) (es : List E) (u : S) : Prop :=
  ∃ es₁ es₂, es = es₁ ++ es₂ ∧ Run after? s es₁ u

theorem Run.visits (h : Run after? s es s') : Visits after? s es s' := ⟨es, [], by simp, h⟩

theorem Visits.snoc (h : Visits after? s es u) (e : E) : Visits after? s (es ++ [e]) u := by
  obtain ⟨es₁, es₂, rfl, hu⟩ := h
  exact ⟨es₁, es₂ ++ [e], by simp, hu⟩

/-- A run with one more event passes through what is behind it, besides. -/
theorem visits_snoc (hr : Run after? s es s') (he : after? s' e = some s'') :
    Visits after? s (es ++ [e]) u ↔ Visits after? s es u ∨ u = s'' := by
  constructor
  · rintro ⟨es₁, es₂, heq, hu⟩
    rcases List.eq_nil_or_concat es₂ with rfl | ⟨es₃, e₃, rfl⟩
    · rw [List.append_nil] at heq
      subst heq
      exact .inr (hu.unique (.snoc hr he))
    · rw [List.concat_eq_append, ← List.append_assoc] at heq
      exact .inl ⟨es₁, es₃, (List.append_inj' heq rfl).1, hu⟩
  · rintro (hu | rfl)
    · exact hu.snoc e
    · exact (Run.snoc hr he).visits

/-- A run up to a state that it passes through, and the run from there on. -/
theorem RunWhere.visits (h : RunWhere after? P s es s') (hv : Visits after? s es u) :
    ∃ es₁ es₂, RunWhere after? P s es₁ u ∧ RunWhere after? P u es₂ s' := by
  obtain ⟨es₁, es₂, rfl, hu⟩ := hv
  obtain ⟨v, hv, hr⟩ := h.of_append
  obtain rfl := hu.unique hv.run
  exact ⟨es₁, es₂, hv, hr⟩

/-! ### The events of a run -/

/-- An event of a run, with the state before it and the one behind it. -/
def Occurs (after? : S → E → Option S) (s : S) (es : List E) (u : S) (e : E) (u' : S) : Prop :=
  ∃ es₁ es₂, es = es₁ ++ e :: es₂ ∧ Run after? s es₁ u ∧ after? u e = some u'

theorem Run.occurs (hr : Run after? s es u) (he : after? u e = some u') :
    Occurs after? s (es ++ [e]) u e u' := ⟨es, [], rfl, hr, he⟩

theorem Occurs.after?_eq (ho : Occurs after? s es u e u') : after? u e = some u' := by
  obtain ⟨-, -, -, -, h⟩ := ho
  exact h

theorem Occurs.snoc (ho : Occurs after? s es u e u') (e' : E) :
    Occurs after? s (es ++ [e']) u e u' := by
  obtain ⟨es₁, es₂, rfl, hu, hu'⟩ := ho
  exact ⟨es₁, es₂ ++ [e'], by simp, hu, hu'⟩

/-- An event of a run with one more event is that one, or was there before. -/
theorem occurs_snoc (hr : Run after? s es s') (he : after? s' e = some s'') :
    Occurs after? s (es ++ [e]) u e' u' ↔
      Occurs after? s es u e' u' ∨ u = s' ∧ e' = e ∧ u' = s'' := by
  constructor
  · rintro ⟨es₁, es₂, heq, hu, hu'⟩
    rcases List.eq_nil_or_concat es₂ with rfl | ⟨es₃, e₃, rfl⟩
    · obtain ⟨rfl, hes⟩ := List.append_inj' heq rfl
      cases hes
      obtain rfl := hu.unique hr
      exact .inr ⟨rfl, rfl, Option.some.inj (hu'.symm.trans he)⟩
    · rw [List.concat_eq_append, ← List.cons_append, ← List.append_assoc] at heq
      exact .inl ⟨es₁, es₃, (List.append_inj' heq rfl).1, hu, hu'⟩
  · rintro (ho | ⟨rfl, rfl, rfl⟩)
    · exact ho.snoc e
    · exact hr.occurs he

/-- A run up to an event of it, and the run behind that event. -/
theorem RunWhere.split (h : RunWhere after? P s es s') (ho : Occurs after? s es u e u') :
    ∃ es₁ es₂, es = es₁ ++ e :: es₂ ∧ RunWhere after? P s es₁ u ∧ P u e ∧
      RunWhere after? P u' es₂ s' := by
  induction h with
  | nil =>
    obtain ⟨es₁, es₂, heq, -⟩ := ho
    simp at heq
  | @snoc s₁ s₂ es e₁ hr hP hs ih =>
    rcases (occurs_snoc hr.run hs).1 ho with ho | ⟨rfl, rfl, rfl⟩
    · obtain ⟨es₁, es₂, rfl, hr₁, hP', hr₂⟩ := ih ho
      exact ⟨es₁, es₂ ++ [e₁], by simp, hr₁, hP', .snoc hr₂ hP hs⟩
    · exact ⟨es, [], rfl, hr, hP, .nil _⟩

end AttributeGateway
