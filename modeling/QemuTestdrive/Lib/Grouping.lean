import Mathlib.Tactic.Common

/-!
# Grouping a List From the Right

A list cut into groups of one size, counted from its end, so that only the first
group may be shorter. This is how the digits of a number are grouped.

Written with a separator between the groups, the list comes back when the
separators are deleted.

## Main definitions

* `Cut`: A list cut into groups from the right.
* `join`: The groups with separators between them.

## Theorems

* `Cut.single`: A short list is one group.
* `Cut.concat`: One more group at the end.
* `Cut.length_rest`: How much follows the first group.
* `Cut.filter_join`: Deleting the separators.
-/

namespace Grouping

variable {α : Type*}

/-- The list `ds` is the group `g`, of one to `k` elements, and after it the groups
    `gs`, of `k` each. -/
structure Cut (k : Nat) (ds g : List α) (gs : List (List α)) : Prop where
  joined : g ++ gs.flatten = ds
  nonempty : g ≠ []
  short : g.length ≤ k
  full : ∀ h ∈ gs, h.length = k

/-- The groups with `sep` between them. -/
def join (sep : α) (g : List α) (gs : List (List α)) : List α :=
  g ++ gs.flatMap fun h => sep :: h

theorem join_concat (sep : α) (g : List α) (gs : List (List α)) (h : List α) :
    join sep g (gs ++ [h]) = join sep g gs ++ sep :: h := by
  rw [join, join, List.flatMap_append, List.flatMap_singleton, List.append_assoc]

theorem Cut.single {k : Nat} {ds : List α} (hne : ds ≠ []) (hlen : ds.length ≤ k) :
    Cut k ds ds [] :=
  ⟨List.append_nil ds, hne, hlen, fun _ hh => absurd hh List.not_mem_nil⟩

theorem Cut.concat {k : Nat} {ds g h : List α} {gs : List (List α)} (hcut : Cut k ds g gs)
    (hh : h.length = k) : Cut k (ds ++ h) g (gs ++ [h]) := by
  refine ⟨?_, hcut.nonempty, hcut.short, fun e he => ?_⟩
  · rw [List.flatten_concat, ← List.append_assoc, hcut.joined]
  · rcases List.mem_append.mp he with he | he
    · exact hcut.full e he
    · rw [List.mem_singleton.mp he]
      exact hh

/-- The groups after the first one are complete. -/
theorem Cut.length_rest {k : Nat} {ds g : List α} {gs : List (List α)} (hcut : Cut k ds g gs) :
    gs.flatten.length = k * gs.length := by
  have hall : ∀ hs : List (List α), (∀ h ∈ hs, h.length = k) → hs.flatten.length = k * hs.length := by
    intro hs
    induction hs with
    | nil => intro _; rfl
    | cons h hs ih =>
        intro hfull
        rw [List.flatten_cons, List.length_append, hfull h List.mem_cons_self,
          ih fun e he => hfull e (List.mem_cons_of_mem h he), List.length_cons, Nat.mul_succ,
          Nat.add_comm]
  exact hall gs hcut.full

/-- A list that does not contain the separator is what is left of its groups when
    the separators are deleted. -/
theorem Cut.filter_join [DecidableEq α] {k : Nat} {ds g : List α} {gs : List (List α)}
    (hcut : Cut k ds g gs) {sep : α} (hsep : sep ∉ ds) :
    (join sep g gs).filter (fun c => c ≠ sep) = ds := by
  have hkeep : ∀ l : List α, sep ∉ l → l.filter (fun c => c ≠ sep) = l := by
    intro l hl
    refine List.filter_eq_self.mpr fun c hc => decide_eq_true ?_
    rintro rfl
    exact hl hc
  have hgroups : ∀ hs : List (List α), sep ∉ hs.flatten →
      (hs.flatMap fun h => sep :: h).filter (fun c => c ≠ sep) = hs.flatten := by
    intro hs
    induction hs with
    | nil => intro _; rfl
    | cons h hs ih =>
        intro hnot
        rw [List.flatten_cons, List.mem_append, not_or] at hnot
        -- The separator goes, and the group behind it stays.
        have hgroup : (sep :: h).filter (fun c => c ≠ sep) = h := by
          refine (List.filter_cons_of_neg ?_).trans (hkeep h hnot.1)
          rw [decide_eq_true_iff, not_not]
        rw [List.flatMap_cons, List.filter_append, hgroup, ih hnot.2, List.flatten_cons]
  have hparts := hsep
  rw [← hcut.joined, List.mem_append, not_or] at hparts
  rw [join, List.filter_append, hkeep g hparts.1, hgroups gs hparts.2, hcut.joined]

end Grouping
