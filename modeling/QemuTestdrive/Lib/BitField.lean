import Mathlib.Tactic.Common

/-!
# Bit Fields in a Machine Word

A C bit-field names a run of adjacent bits of a word. Reading one extracts the
run, and writing one replaces it and keeps the other bits. What a program
relies on is that fields which share no bit do not disturb each other, and
that is `get_set_disjoint`.

## Main definitions

* `get`: The field of a given width at a given bit.
* `set`: The word with one field replaced.

## Theorems

* `get_set_self`: A field that was written reads back.
* `get_set_disjoint`: Writing a field leaves a disjoint field alone.
-/

namespace BitField

/-- The `w` bits of `m` from bit `lo` on. -/
def get {n : Nat} (m : BitVec n) (lo w : Nat) : BitVec w :=
  m.extractLsb' lo w

/-- The word `m` with the field at bit `lo` replaced by `v`. -/
def set {n w : Nat} (m : BitVec n) (lo : Nat) (v : BitVec w) : BitVec n :=
  (m &&& ~~~((BitVec.allOnes w).setWidth n <<< lo)) ||| (v.setWidth n <<< lo)

theorem getLsbD_set {n w : Nat} (m : BitVec n) (lo : Nat) (v : BitVec w) (i : Nat)
    (hi : i < n) :
    (set m lo v).getLsbD i = if lo ≤ i ∧ i < lo + w then v.getLsbD (i - lo) else m.getLsbD i := by
  simp only [set, BitVec.getLsbD_or, BitVec.getLsbD_and, BitVec.getLsbD_not,
    BitVec.getLsbD_shiftLeft, BitVec.getLsbD_setWidth, BitVec.getLsbD_allOnes, hi]
  -- The mask is zero on the field and the shifted value is zero off it.
  by_cases hlo : lo ≤ i
  · by_cases hw : i < lo + w
    · rw [if_pos ⟨hlo, hw⟩]
      simp [show ¬ i < lo by omega, show i - lo < w by omega, show i - lo < n by omega]
    · rw [if_neg (by omega)]
      simp [show ¬ i - lo < w by omega, BitVec.getLsbD_of_ge v (i - lo) (by omega)]
  · rw [if_neg (by omega)]
    simp [show i < lo by omega]

theorem get_set_self {n w : Nat} (m : BitVec n) (lo : Nat) (v : BitVec w)
    (h : lo + w ≤ n) : get (set m lo v) lo w = v := by
  apply BitVec.eq_of_getLsbD_eq
  intro i hi
  simp only [get, BitVec.getLsbD_extractLsb', hi, decide_true, Bool.true_and]
  rw [getLsbD_set m lo v (lo + i) (by omega), if_pos (by omega), Nat.add_sub_cancel_left]

theorem get_set_disjoint {n w w' : Nat} (m : BitVec n) (lo lo' : Nat) (v : BitVec w)
    (h : lo' + w' ≤ n) (hdisj : lo' + w' ≤ lo ∨ lo + w ≤ lo') :
    get (set m lo v) lo' w' = get m lo' w' := by
  apply BitVec.eq_of_getLsbD_eq
  intro i hi
  simp only [get, BitVec.getLsbD_extractLsb', hi, decide_true, Bool.true_and]
  rw [getLsbD_set m lo v (lo' + i) (by omega), if_neg (by omega)]

end BitField
