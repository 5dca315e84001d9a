import Mathlib.Tactic.Common

/-!
# Packed Blocks

An allocator that hands out cells from the bottom of a range and never takes
one back. Its state is the list of blocks given out, newest first, each a start
and a width. `Packed` says that every block starts where the older ones end,
and everything a user of the allocator wants to know follows from it: the
blocks are pairwise disjoint, and together they are an initial segment.

A request that does not fit is passed over.

## Main definitions

* `total`: The number of cells given out.
* `Packed`: Every block starts where the older ones end.
* `push`: Serving one request.

## Theorems

* `Packed.covers`: The blocks cover an initial segment.
* `Packed.block_le`: A block ends within the segment.
* `Packed.disjoint`: Two different blocks do not overlap.
* `Packed.start_lt`: A block that is not empty starts below the total.
* `packed_push`: Serving a request keeps the blocks packed.
* `total_push_le`: Serving a request stays within the capacity.
-/

namespace Slots

/-- The number of cells the blocks take. -/
def total : List (Nat × Nat) → Nat
  | [] => 0
  | b :: bs => b.2 + total bs

/-- Every block starts where the older ones end. -/
def Packed : List (Nat × Nat) → Prop
  | [] => True
  | b :: bs => b.1 = total bs ∧ Packed bs

theorem Packed.block_le {bs : List (Nat × Nat)} (h : Packed bs) {b : Nat × Nat}
    (hb : b ∈ bs) : b.1 + b.2 ≤ total bs := by
  induction bs with
  | nil => exact absurd hb List.not_mem_nil
  | cons c bs ih =>
      rcases h with ⟨hc, hbs⟩
      simp only [total]
      rcases List.mem_cons.mp hb with rfl | hmem
      · omega
      · have hle := ih hbs hmem
        omega

theorem Packed.start_lt {bs : List (Nat × Nat)} (h : Packed bs) {b : Nat × Nat}
    (hb : b ∈ bs) (hpos : 0 < b.2) : b.1 < total bs := by
  have hle := h.block_le hb
  omega

theorem Packed.covers {bs : List (Nat × Nat)} (h : Packed bs) (j : Nat) :
    (∃ b ∈ bs, b.1 ≤ j ∧ j < b.1 + b.2) ↔ j < total bs := by
  constructor
  · rintro ⟨b, hb, _, hj⟩
    have hle := h.block_le hb
    omega
  · intro hj
    induction bs with
    | nil => exact absurd hj (Nat.not_lt_zero j)
    | cons c bs ih =>
        rcases h with ⟨hc, hbs⟩
        simp only [total] at hj
        by_cases hlt : j < total bs
        · rcases ih hbs hlt with ⟨b, hb, hbj⟩
          exact ⟨b, List.mem_cons_of_mem c hb, hbj⟩
        · -- Past the older blocks, so in the newest one.
          exact ⟨c, List.mem_cons_self, by omega, by omega⟩

theorem Packed.disjoint {bs : List (Nat × Nat)} (h : Packed bs) {b c : Nat × Nat}
    (hb : b ∈ bs) (hc : c ∈ bs) (hne : b ≠ c) : b.1 + b.2 ≤ c.1 ∨ c.1 + c.2 ≤ b.1 := by
  induction bs with
  | nil => exact absurd hb List.not_mem_nil
  | cons d bs ih =>
      rcases h with ⟨hd, hbs⟩
      rcases List.mem_cons.mp hb with rfl | hb'
      · rcases List.mem_cons.mp hc with rfl | hc'
        · exact absurd rfl hne
        · -- The newest block starts where the older ones end.
          rw [hd]
          exact Or.inr (hbs.block_le hc')
      · rcases List.mem_cons.mp hc with rfl | hc'
        · rw [hd]
          exact Or.inl (hbs.block_le hb')
        · exact ih hbs hb' hc'

/-- Serve a request of `w` cells out of `cap`, or pass it over. -/
def push (cap : Nat) (bs : List (Nat × Nat)) (w : Nat) : List (Nat × Nat) :=
  if total bs + w ≤ cap then (total bs, w) :: bs else bs

theorem packed_push (cap : Nat) (bs : List (Nat × Nat)) (w : Nat) (h : Packed bs) :
    Packed (push cap bs w) := by
  unfold push
  by_cases hfit : total bs + w ≤ cap
  · rw [if_pos hfit]
    exact ⟨rfl, h⟩
  · rw [if_neg hfit]
    exact h

theorem total_push_le (cap : Nat) (bs : List (Nat × Nat)) (w : Nat) (h : total bs ≤ cap) :
    total (push cap bs w) ≤ cap := by
  unfold push
  by_cases hfit : total bs + w ≤ cap
  · rw [if_pos hfit]
    simp only [total]
    omega
  · rw [if_neg hfit]
    exact h

end Slots
