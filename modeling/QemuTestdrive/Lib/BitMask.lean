import Mathlib.Data.Nat.Bitwise

/-!
# Alignment Masks

A number is a multiple of a power of two when its low bits are zero, so a mask
can be used to test for it. The mask `2 ^ k - 1` gives the exact test. Another
mask below `2 ^ k` has only low bits, so it finds nothing but unaligned numbers,
and misses those that have none of its bits.

## Theorems

* `and_ne_zero_iff`: A mask finds a number that has one of its bits.
* `not_dvd_iff`: An unaligned number has a low bit.
* `lt_of_testBit`: A small mask has only low bits.
-/

namespace BitMask

/-- A mask finds a number exactly when they have a bit in common. -/
theorem and_ne_zero_iff (mask a : Nat) :
    mask &&& a ≠ 0 ↔ ∃ j, mask.testBit j = true ∧ a.testBit j = true := by
  constructor
  · intro h
    rcases Nat.exists_testBit_of_ne_zero h with ⟨j, hj⟩
    rw [Nat.testBit_and, Bool.and_eq_true] at hj
    exact ⟨j, hj⟩
  · rintro ⟨j, hmask, ha⟩ hzero
    have hbit : (mask &&& a).testBit j = true := by rw [Nat.testBit_and, hmask, ha]; rfl
    rw [hzero, Nat.zero_testBit] at hbit
    exact Bool.false_ne_true hbit

/-- A number is no multiple of `2 ^ k` exactly when it has one of its `k` low
    bits. -/
theorem not_dvd_iff (k a : Nat) : ¬ 2 ^ k ∣ a ↔ ∃ j < k, a.testBit j = true := by
  rw [Nat.dvd_iff_mod_eq_zero]
  constructor
  · intro h
    rcases Nat.exists_testBit_of_ne_zero h with ⟨j, hj⟩
    rw [Nat.testBit_mod_two_pow, Bool.and_eq_true, decide_eq_true_iff] at hj
    exact ⟨j, hj⟩
  · rintro ⟨j, hjk, hj⟩ hzero
    have hbit : (a % 2 ^ k).testBit j = true := by
      rw [Nat.testBit_mod_two_pow, hj, decide_eq_true hjk]
      rfl
    rw [hzero, Nat.zero_testBit] at hbit
    exact Bool.false_ne_true hbit

/-- A mask below `2 ^ k` has only low bits. -/
theorem lt_of_testBit {mask j k : Nat} (hlt : mask < 2 ^ k) (hj : mask.testBit j = true) :
    j < k := by
  by_contra hge
  have hpow : 2 ^ k ≤ 2 ^ j := Nat.pow_le_pow_right (by omega) (by omega)
  rw [Nat.testBit_lt_two_pow (by omega)] at hj
  exact Bool.false_ne_true hj

end BitMask
