import Mathlib.Tactic.Common

/-!
# Runs of a Step Function

A component that is driven by operations has a state and a step function, and
a run is the fold of the one over a list of the other. This module holds what
is true of every such component.

Two ways of quantifying over a run are used throughout. `Always` ranges over
the states a run passes through, so it states an invariant of the run. `Each`
ranges over the operations together with the state each is taken in, so it
states a condition on how the component is used. `always_iff_each` connects
them: when a single step preserves a property exactly under a condition, a
whole run keeps the property exactly when each of its steps meets the
condition. That turns one case analysis of the step function into a statement
about runs of any length, in both directions.

## Main definitions

* `run`: The state after a list of operations.
* `Always`: A property of every state a run passes through.
* `Each`: A condition met by every operation in the state it is taken in.

## Theorems

* `run_append`: Splitting a run at an intermediate state.
* `run_preserves`: A preserved property holds after any run.
* `always_iff_each`: A step condition that is exact for one step is exact for
  a run.
* `always_of_each`: A step condition that is enough for one step is enough for a
  run.
* `each_congr`: Conditions that agree where an invariant holds agree along a
  run.
* `run_simulates`: A relation two step functions preserve relates their runs.
* `each_simulates`: Conditions that agree on related states agree along two runs.
* `run_simulates_flatMap`: The same where an operation stands for any number of
  operations of the other run.
-/

namespace Runs

variable {σ α : Type*} (step : σ → α → σ)

/-- The state after the operations `as`, taken one after the other. -/
def run (s : σ) (as : List α) : σ :=
  as.foldl step s

/-- `P` holds in every state the run passes through, the first and the last
    included. -/
def Always (P : σ → Prop) (s : σ) (as : List α) : Prop :=
  ∀ pre post, as = pre ++ post → P (run step s pre)

/-- Every operation of the run is taken in a state where `C` allows it. -/
def Each (C : σ → α → Prop) (s : σ) (as : List α) : Prop :=
  ∀ pre a post, as = pre ++ a :: post → C (run step s pre) a

@[simp] theorem run_nil (s : σ) : run step s [] = s := rfl

@[simp] theorem run_cons (s : σ) (a : α) (as : List α) :
    run step s (a :: as) = run step (step s a) as := rfl

theorem run_append (s : σ) (as bs : List α) :
    run step s (as ++ bs) = run step (run step s as) bs := by
  simp only [run, List.foldl_append]

theorem run_preserves {I : σ → Prop} (hstep : ∀ s a, I s → I (step s a)) (s : σ)
    (as : List α) (hs : I s) : I (run step s as) := by
  induction as generalizing s with
  | nil => exact hs
  | cons a as ih => exact ih (step s a) (hstep s a hs)

theorem always_nil (P : σ → Prop) (s : σ) : Always step P s [] ↔ P s := by
  constructor
  · intro h
    exact h [] [] rfl
  · intro h pre post hsplit
    rw [(List.append_eq_nil_iff.mp hsplit.symm).1]
    exact h

theorem always_cons (P : σ → Prop) (s : σ) (a : α) (as : List α) :
    Always step P s (a :: as) ↔ P s ∧ Always step P (step s a) as := by
  constructor
  · intro h
    refine ⟨h [] (a :: as) rfl, fun pre post hsplit => ?_⟩
    exact h (a :: pre) post (by rw [hsplit, List.cons_append])
  · intro h pre post hsplit
    rcases h with ⟨h0, h⟩
    -- A prefix of the longer run is empty, or begins with its first operation.
    cases pre with
    | nil => exact h0
    | cons b pre =>
        rw [List.cons_append, List.cons.injEq] at hsplit
        rw [← hsplit.1]
        exact h pre post hsplit.2

theorem each_nil (C : σ → α → Prop) (s : σ) : Each step C s [] := by
  intro pre a post hsplit
  exact absurd hsplit.symm (List.append_ne_nil_of_right_ne_nil pre (List.cons_ne_nil a post))

theorem each_cons (C : σ → α → Prop) (s : σ) (a : α) (as : List α) :
    Each step C s (a :: as) ↔ C s a ∧ Each step C (step s a) as := by
  constructor
  · intro h
    refine ⟨h [] a as rfl, fun pre b post hsplit => ?_⟩
    exact h (a :: pre) b post (by rw [hsplit, List.cons_append])
  · intro h pre b post hsplit
    rcases h with ⟨h0, h⟩
    cases pre with
    | nil =>
        rw [List.nil_append, List.cons.injEq] at hsplit
        rw [← hsplit.1]
        exact h0
    | cons c pre =>
        rw [List.cons_append, List.cons.injEq] at hsplit
        rw [← hsplit.1]
        exact h pre b post hsplit.2

/-- A run keeps `P` exactly when each of its steps meets `C`, provided a single
    step from a state with `P` does. The invariant `I` is what the single-step
    fact may assume besides `P`. -/
theorem always_iff_each {I P : σ → Prop} {C : σ → α → Prop}
    (hinv : ∀ s a, I s → I (step s a))
    (hexact : ∀ s a, I s → P s → (P (step s a) ↔ C s a)) :
    ∀ (as : List α) (s : σ), I s → P s → (Always step P s as ↔ Each step C s as) := by
  intro as
  induction as with
  | nil =>
      intro s _ hP
      exact ⟨fun _ => each_nil step C s, fun _ => (always_nil step P s).mpr hP⟩
  | cons a as ih =>
      intro s hI hP
      rw [always_cons, each_cons]
      constructor
      · intro h
        rcases h with ⟨_, hrest⟩
        -- The first state of the rest is the one the step leads to.
        have hP' : P (step s a) := hrest [] as rfl
        exact ⟨(hexact s a hI hP).mp hP', (ih (step s a) (hinv s a hI) hP').mp hrest⟩
      · intro h
        rcases h with ⟨hC, hrest⟩
        have hP' : P (step s a) := (hexact s a hI hP).mpr hC
        exact ⟨hP, (ih (step s a) (hinv s a hI) hP').mpr hrest⟩

/-- A run whose steps all meet a condition keeps a property that a step under the
    condition preserves. -/
theorem always_of_each {P : σ → Prop} {C : σ → α → Prop}
    (hstep : ∀ s a, P s → C s a → P (step s a)) :
    ∀ (as : List α) (s : σ), P s → Each step C s as → Always step P s as := by
  intro as
  induction as with
  | nil => intro s hP _; exact (always_nil step P s).mpr hP
  | cons a as ih =>
      intro s hP h
      rcases (each_cons step C s a as).mp h with ⟨hC, hrest⟩
      exact (always_cons step P s a as).mpr ⟨hP, ih (step s a) (hstep s a hP hC) hrest⟩

/-- Two conditions that agree wherever the invariant `I` holds agree along a
    run. -/
theorem each_congr {I : σ → Prop} {C D : σ → α → Prop}
    (hinv : ∀ s a, I s → I (step s a)) (hagree : ∀ s a, I s → (C s a ↔ D s a))
    (s : σ) (as : List α) (hs : I s) : Each step C s as ↔ Each step D s as := by
  constructor
  · intro h pre a post hsplit
    exact (hagree _ a (run_preserves step hinv s pre hs)).mp (h pre a post hsplit)
  · intro h pre a post hsplit
    exact (hagree _ a (run_preserves step hinv s pre hs)).mpr (h pre a post hsplit)

/-- A relation that two step functions preserve, one operation for one, relates
    the ends of their runs. -/
theorem run_simulates {τ β : Type*} (step' : τ → β → τ) (f : α → β) {R : σ → τ → Prop}
    {V : α → Prop} (hstep : ∀ s t a, V a → R s t → R (step s a) (step' t (f a))) :
    ∀ (as : List α) (s : σ) (t : τ), (∀ a ∈ as, V a) → R s t →
      R (run step s as) (run step' t (as.map f)) := by
  intro as
  induction as with
  | nil => intro s t _ hR; exact hR
  | cons a as ih =>
      intro s t hV hR
      have ha : V a := hV a List.mem_cons_self
      have has : ∀ b ∈ as, V b := fun b hb => hV b (List.mem_cons_of_mem a hb)
      exact ih (step s a) (step' t (f a)) has (hstep s t a ha hR)

/-- A condition on the operations alone. -/
theorem each_of_forall {V : α → Prop} (s : σ) {as : List α} (h : ∀ a ∈ as, V a) :
    Each step (fun _ a => V a) s as := by
  intro pre a post hsplit
  refine h a ?_
  rw [hsplit]
  exact List.mem_append_right pre List.mem_cons_self

/-- A relation between a step and the operations it stands for relates the ends of
    the two runs. -/
theorem run_simulates_flatMap {τ β : Type*} (step' : τ → β → τ) (f : α → List β)
    {R : σ → τ → Prop} {C : σ → α → Prop}
    (hstep : ∀ s t a, C s a → R s t → R (step s a) (run step' t (f a))) :
    ∀ (as : List α) (s : σ) (t : τ), Each step C s as → R s t →
      R (run step s as) (run step' t (as.flatMap f)) := by
  intro as
  induction as with
  | nil => intro s t _ hR; exact hR
  | cons a as ih =>
      intro s t hC hR
      rw [each_cons] at hC
      rw [List.flatMap_cons, run_append, run_cons]
      exact ih (step s a) (run step' t (f a)) hC.2 (hstep s t a hC.1 hR)

/-- Two conditions that agree on related states agree along two runs that keep
    the relation. -/
theorem each_simulates {τ : Type*} (step' : τ → α → τ) {R : σ → τ → Prop} {C : σ → α → Prop}
    {D : τ → α → Prop} (hstep : ∀ s t a, R s t → R (step s a) (step' t a))
    (hagree : ∀ s t a, R s t → (C s a ↔ D t a)) :
    ∀ (as : List α) (s : σ) (t : τ), R s t → (Each step C s as ↔ Each step' D t as) := by
  intro as
  induction as with
  | nil => intro s t _; exact iff_of_true (each_nil step C s) (each_nil step' D t)
  | cons a as ih =>
      intro s t hR
      rw [each_cons, each_cons, hagree s t a hR, ih (step s a) (step' t a) (hstep s t a hR)]

end Runs
