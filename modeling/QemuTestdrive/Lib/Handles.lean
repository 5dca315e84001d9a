import Mathlib.Data.List.Count
import Mathlib.Tactic.Common

/-!
# Numbered Handles

A component that hands out handles, and is called with them, keeps one rule: a
handle is used after it has been acquired and before it is released, and it is
released once. The rule is about the order of acts and not about what is behind
a handle, so it is stated over a list of acts, and no act refers to a state.

A component has to know which handles are open to keep the rule. `Ledger` says
that it does: what it holds is what its acts so far have left open, and the next
handle has a number that has not been used. Each act has one lemma that carries
the ledger on, and with them a step function is followed act by act. At the end
of a run the ledger is read the other way. Its acts have kept the rule, and what
is open is what the last state holds.

## Main definitions

* `Act`: Acquiring, using and releasing a handle.
* `Open`: A handle has been acquired and not released.
* `Allowed`, `Disciplined`: The rule for one act, and for all of a list.
* `Ledger`: The acts keep the rule, and leave open what is held.

## Theorems

* `disciplined_concat`: One more act.
* `Disciplined.released_once`: No handle is released twice.
* `Disciplined.settled_iff`: Nothing is open when all that was acquired has been
  released.
* `Ledger.acquire`, `Ledger.use`, `Ledger.release`: The ledger after an act.
-/

namespace Handles

variable {κ : Type*}

/-- What is done with a handle. -/
inductive Act (κ : Type*) where
  | acquire (k : κ)
  | use (k : κ)
  | release (k : κ)
  deriving DecidableEq

/-- The handle `k` has been acquired, and not been released. -/
def Open (as : List (Act κ)) (k : κ) : Prop :=
  .acquire k ∈ as ∧ .release k ∉ as

/-- The act is allowed after the acts `as`. -/
def Allowed (as : List (Act κ)) : Act κ → Prop
  | .acquire k => .acquire k ∉ as
  | .use k => Open as k
  | .release k => Open as k

/-- Every act is allowed after the ones before it. -/
def Disciplined (as : List (Act κ)) : Prop :=
  ∀ pre a post, as = pre ++ a :: post → Allowed pre a

theorem disciplined_nil : Disciplined ([] : List (Act κ)) := by
  intro pre a post hsplit
  exact absurd hsplit.symm (List.append_ne_nil_of_right_ne_nil pre (List.cons_ne_nil a post))

theorem disciplined_concat (as : List (Act κ)) (a : Act κ) :
    Disciplined (as ++ [a]) ↔ Disciplined as ∧ Allowed as a := by
  constructor
  · intro h
    refine ⟨fun pre b post hsplit => ?_, h as a [] rfl⟩
    exact h pre b (post ++ [a]) (by rw [hsplit, List.append_assoc, List.cons_append])
  · rintro ⟨h, ha⟩ pre b post hsplit
    -- The act in question is the last one, or stands among the earlier ones.
    rcases List.eq_nil_or_concat post with rfl | ⟨post, c, rfl⟩
    · rcases List.append_inj' hsplit rfl with ⟨rfl, hlast⟩
      rw [← List.singleton_inj.mp hlast]
      exact ha
    · rw [List.concat_eq_append, ← List.cons_append, ← List.append_assoc] at hsplit
      exact h pre b post (List.append_inj' hsplit rfl).1

section Disciplined

variable {as : List (Act κ)}

/-- A handle that has been released was acquired before. -/
theorem Disciplined.acquired_of_released (h : Disciplined as) {k : κ} (hk : .release k ∈ as) :
    .acquire k ∈ as := by
  rcases List.append_of_mem hk with ⟨pre, post, hsplit⟩
  rw [hsplit]
  exact List.mem_append_left _ (h pre (.release k) post hsplit).1

theorem Disciplined.released_once [DecidableEq κ] (h : Disciplined as) (k : κ) :
    as.count (.release k) ≤ 1 := by
  by_cases hk : .release k ∈ as
  · -- What comes before the last release has none, and nothing comes after it.
    rcases List.append_of_mem hk with ⟨pre, post, hsplit⟩
    have hpre := (h pre (.release k) post hsplit).2
    have hpost : .release k ∉ post := by
      intro hmem
      rcases List.append_of_mem hmem with ⟨mid, rest, hrest⟩
      rw [hrest, ← List.cons_append, ← List.append_assoc] at hsplit
      exact (h _ _ rest hsplit).2 (List.mem_append_right _ List.mem_cons_self)
    have hcount : as.count (.release k) = 0 + (0 + 1) := by
      rw [hsplit, List.count_append, List.count_cons_self, List.count_eq_zero.mpr hpre,
        List.count_eq_zero.mpr hpost]
    omega
  · rw [List.count_eq_zero.mpr hk]
    exact Nat.zero_le 1

/-- Nothing is open exactly when every handle acquired has been released once. -/
theorem Disciplined.settled_iff [DecidableEq κ] (h : Disciplined as) :
    (∀ k, ¬ Open as k) ↔ ∀ k, .acquire k ∈ as → as.count (.release k) = 1 := by
  constructor
  · intro hnone k hk
    have hmem : .release k ∈ as := by
      by_contra hleft
      exact hnone k ⟨hk, hleft⟩
    exact Nat.le_antisymm (h.released_once k) (List.count_pos_iff.mpr hmem)
  · rintro hall k ⟨hk, hleft⟩
    have hone := hall k hk
    rw [List.count_eq_zero.mpr hleft] at hone
    exact Nat.zero_ne_one hone

end Disciplined

/-- The acts keep the rule and leave open what is `held`, and no handle has the
    number `next` or a higher one. -/
structure Ledger (as : List (Act Nat)) (held : Nat → Prop) (next : Nat) : Prop where
  disciplined : Disciplined as
  open_iff : ∀ k, Open as k ↔ held k
  numbered : ∀ k, .acquire k ∈ as → k < next

theorem ledger_nil {held : Nat → Prop} (hheld : ∀ k, ¬ held k) (next : Nat) :
    Ledger [] held next :=
  ⟨disciplined_nil, fun k => iff_of_false (fun h => List.not_mem_nil h.1) (hheld k),
    fun _ hk => absurd hk List.not_mem_nil⟩

section Ledger

variable {as : List (Act Nat)} {held held' : Nat → Prop} {next : Nat}

theorem Ledger.congr (h : Ledger as held next) (hheld : ∀ k, held k ↔ held' k) :
    Ledger as held' next :=
  ⟨h.disciplined, fun k => (h.open_iff k).trans (hheld k), h.numbered⟩

/-- What is held has a number below the next. -/
theorem Ledger.lt (h : Ledger as held next) {k : Nat} (hk : held k) : k < next :=
  h.numbered k ((h.open_iff k).mpr hk).1

/-- The handle acquired has the next number. -/
theorem Ledger.acquire (h : Ledger as held next)
    (hheld : ∀ k, held' k ↔ held k ∨ k = next) :
    Ledger (as ++ [.acquire next]) held' (next + 1) := by
  have hnew : .acquire next ∉ as := fun hmem => Nat.lt_irrefl next (h.numbered next hmem)
  refine ⟨(disciplined_concat as _).mpr ⟨h.disciplined, hnew⟩, fun k => ?_, fun k hk => ?_⟩
  · rw [hheld, ← h.open_iff]
    simp only [Open, List.mem_append, List.mem_singleton, Act.acquire.injEq, reduceCtorEq, or_false]
    constructor
    · rintro ⟨hk | hk, hleft⟩
      · exact Or.inl ⟨hk, hleft⟩
      · exact Or.inr hk
    · rintro (⟨hk, hleft⟩ | rfl)
      · exact ⟨Or.inl hk, hleft⟩
      · -- A handle of that number has not been released, since it was never acquired.
        exact ⟨Or.inr rfl, fun hrel => hnew (h.disciplined.acquired_of_released hrel)⟩
  · simp only [List.mem_append, List.mem_singleton, Act.acquire.injEq] at hk
    rcases hk with hk | rfl
    · exact Nat.lt_succ_of_lt (h.numbered k hk)
    · exact Nat.lt_succ_self k

theorem Ledger.use (h : Ledger as held next) {k : Nat} (hk : held k) :
    Ledger (as ++ [.use k]) held next := by
  refine ⟨(disciplined_concat as _).mpr ⟨h.disciplined, (h.open_iff k).mpr hk⟩, fun j => ?_,
    fun j hj => h.numbered j ?_⟩
  · rw [← h.open_iff]
    simp only [Open, List.mem_append, List.mem_singleton, reduceCtorEq, or_false]
  · simpa only [List.mem_append, List.mem_singleton, reduceCtorEq, or_false] using hj

theorem Ledger.release (h : Ledger as held next) {k : Nat} (hk : held k)
    (hheld : ∀ j, held' j ↔ held j ∧ j ≠ k) : Ledger (as ++ [.release k]) held' next := by
  refine ⟨(disciplined_concat as _).mpr ⟨h.disciplined, (h.open_iff k).mpr hk⟩, fun j => ?_,
    fun j hj => h.numbered j ?_⟩
  · rw [hheld, ← h.open_iff]
    simp only [Open, List.mem_append, List.mem_singleton, Act.release.injEq, reduceCtorEq,
      or_false, not_or, and_assoc]
  · simpa only [List.mem_append, List.mem_singleton, reduceCtorEq, or_false] using hj

end Ledger

end Handles
