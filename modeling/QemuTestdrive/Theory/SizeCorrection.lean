import Mathlib.Data.Nat.Log
import QemuTestdrive.Core.Script

/-!
# The Size Correction Loop

The loop starts at one and doubles, so its candidate is a power of two all
along, and a shift loses nothing while the candidate is below the top bit. The
loop stops at the first candidate that is large enough, or at the top bit. The
result is therefore described by its exponent: `correctLoop_spec` gives the
exponent with the two facts that pin it down, that the request fits or the top
was reached, and that the candidate before was too small.

## Main definitions

* `SizeCorrected`: What the correction makes of a request.

## Theorems

* `correctLoop_spec`: The loop ends, at a power of two that is pinned down.
* `correctedSize_spec`: The same for the size of a BAR.
* `correctedSize_toNat`: The corrected size in closed form.
* `correctedSize_lt_iff`: When the corrected size is below a power of two.
* `correctLoop_fuel`: More turns than it takes change nothing.
* `sizeCorrected`: The correction of a request that is not zero.
-/

namespace QemuTestdrive

theorem toNat_shiftLeft_one (c : UInt64) (k : Nat) (hc : c.toNat = 2 ^ k) (hk : k < 63) :
    (c <<< 1).toNat = 2 ^ (k + 1) := by
  have hlt : 2 ^ (k + 1) < 2 ^ 64 := Nat.pow_lt_pow_right (by omega) (by omega)
  rw [UInt64.toNat_shiftLeft, hc, show (1 : UInt64).toNat % 64 = 1 by decide,
    Nat.shiftLeft_eq, ← Nat.pow_add, Nat.mod_eq_of_lt hlt]

/-- The loop ends within the turns left to it. Its result is a power of two at
    which the request fits or the top bit is reached, and the power below it was
    too small, unless the loop did not turn at all. -/
theorem correctLoop_spec (byteSize : UInt64) :
    ∀ (n k : Nat) (c : UInt64), n + k = 64 → 0 < n → c.toNat = 2 ^ k →
      ∃ m r, correctLoop n byteSize c = some r ∧ r.toNat = 2 ^ m ∧ k ≤ m ∧ m ≤ 63 ∧
        (byteSize.toNat ≤ 2 ^ m ∨ m = 63) ∧ (m = k ∨ 2 ^ (m - 1) < byteSize.toNat) := by
  intro n
  induction n with
  | zero => intro k c _ hn; omega
  | succ n ih =>
      intro k c hnk _ hc
      by_cases hturn : c < byteSize ∧ c ≠ 0x8000000000000000
      · -- Another turn, so the candidate is below the top bit.
        have hlt : 2 ^ k < byteSize.toNat := by
          rw [← hc]
          exact UInt64.lt_iff_toNat_lt.mp hturn.1
        have hk : k < 63 := by
          by_contra hge
          have hk63 : k = 63 := by omega
          apply hturn.2
          apply UInt64.toNat_inj.mp
          rw [hc, hk63]
          decide
        rcases ih (k + 1) (c <<< 1) (by omega) (by omega) (toNat_shiftLeft_one c k hc hk) with
          ⟨m, r, hr, hrm, hkm, hm63, hfit, hsmall⟩
        refine ⟨m, r, ?_, hrm, by omega, hm63, hfit, ?_⟩
        · rw [correctLoop, if_pos hturn]
          exact hr
        · rcases hsmall with rfl | hsmall
          · exact Or.inr (by rw [Nat.add_sub_cancel]; exact hlt)
          · exact Or.inr hsmall
      · refine ⟨k, c, by rw [correctLoop, if_neg hturn], hc, le_refl k, by omega, ?_, Or.inl rfl⟩
        rw [not_and_or, not_not] at hturn
        rcases hturn with hge | htop
        · left
          rw [← hc]
          exact UInt64.le_iff_toNat_le.mp (UInt64.not_lt.mp hge)
        · right
          have hpow : 2 ^ k = 2 ^ 63 := by
            rw [← hc, htop]
            decide
          exact Nat.pow_right_injective (le_refl 2) hpow

/-- The corrected size of a request that is not zero. -/
theorem correctedSize_spec (byteSize : UInt64) (h : byteSize ≠ 0) :
    ∃ m, (correctedSize byteSize).toNat = 2 ^ m ∧ m ≤ 63 ∧
      (byteSize.toNat ≤ 2 ^ m ∨ m = 63) ∧ (m = 0 ∨ 2 ^ (m - 1) < byteSize.toNat) := by
  rcases correctLoop_spec byteSize 64 0 1 rfl (by omega) rfl with
    ⟨m, r, hr, hrm, _, hm63, hfit, hsmall⟩
  refine ⟨m, ?_, hm63, hfit, hsmall⟩
  rw [correctedSize, if_neg h, hr, Option.getD_some]
  exact hrm

/-- The corrected size is the least power of two that is large enough, or the
    top bit when there is none. -/
theorem correctedSize_toNat (byteSize : UInt64) (h : byteSize ≠ 0) :
    (correctedSize byteSize).toNat = 2 ^ min (Nat.clog 2 byteSize.toNat) 63 := by
  rcases correctedSize_spec byteSize h with ⟨m, hm, hm63, hfit, hsmall⟩
  have hlow : m ≤ Nat.clog 2 byteSize.toNat := by
    rcases hsmall with hzero | hsmall
    · omega
    · have hlt := (Nat.lt_clog_iff_pow_lt (by omega)).mpr hsmall
      omega
  -- Either the request fits, and the exponent is the logarithm, or the top was reached.
  have hexp : m = min (Nat.clog 2 byteSize.toNat) 63 := by
    rcases hfit with hfit | htop
    · have hle := (Nat.clog_le_iff_le_pow (by omega)).mpr hfit
      omega
    · omega
  rw [hm, hexp]

/-- The corrected size is below a power of two when the request is at most
    half of it. -/
theorem correctedSize_lt_iff (byteSize : UInt64) (h : byteSize ≠ 0) (k : Nat) (hk : k < 63) :
    (correctedSize byteSize).toNat < 2 ^ (k + 1) ↔ byteSize.toNat ≤ 2 ^ k := by
  rcases correctedSize_spec byteSize h with ⟨m, hm, _, hfit, hsmall⟩
  rw [hm, Nat.pow_lt_pow_iff_right (by omega)]
  constructor
  · intro hlt
    -- A result below the top bit is one the request fits in.
    have hle : 2 ^ m ≤ 2 ^ k := Nat.pow_le_pow_right (by omega) (by omega)
    rcases hfit with hfit | htop
    · omega
    · omega
  · intro hle
    rcases hsmall with hzero | hsmall
    · omega
    · -- The power below the result is smaller than the request.
      have hpow : 2 ^ (m - 1) < 2 ^ k := by omega
      have hexp : m - 1 < k := (Nat.pow_lt_pow_iff_right (by omega)).mp hpow
      omega

/-- The correction of the request `byteSize`: the loop ends, at the least power
    of two that is large enough, or at the top bit when there is none. -/
structure SizeCorrected (byteSize : UInt64) : Prop where
  ends : ∀ n, 64 ≤ n → correctLoop n byteSize 1 = some (correctedSize byteSize)
  power : ∃ k, (correctedSize byteSize).toNat = 2 ^ k
  least : byteSize.toNat ≤ 2 ^ 63 → byteSize ≤ correctedSize byteSize ∧
    ∀ k, byteSize.toNat ≤ 2 ^ k → (correctedSize byteSize).toNat ≤ 2 ^ k
  fixed : ∀ k, byteSize.toNat = 2 ^ k → correctedSize byteSize = byteSize
  top : 2 ^ 63 < byteSize.toNat → (correctedSize byteSize).toNat = 2 ^ 63
  monotone : ∀ byteSize', byteSize ≤ byteSize' → correctedSize byteSize ≤ correctedSize byteSize'
  idempotent : correctedSize (correctedSize byteSize) = correctedSize byteSize

/-- Turns that are left when the loop ends make no difference. -/
theorem correctLoop_fuel (byteSize : UInt64) (k : Nat) :
    ∀ (n : Nat) (c r : UInt64), correctLoop n byteSize c = some r →
      correctLoop (n + k) byteSize c = some r := by
  intro n
  induction n with
  | zero => intro c r h; exact absurd h (Option.some_ne_none r).symm
  | succ n ih =>
      intro c r h
      rw [correctLoop] at h
      rw [Nat.succ_add_eq_add_succ, Nat.add_succ, correctLoop]
      split
      · rename_i hturn
        rw [if_pos hturn] at h
        exact ih (c <<< 1) r h
      · rename_i hstop
        rw [if_neg hstop] at h
        exact h

/-- A power of two is its own correction. -/
theorem correctedSize_pow {byteSize : UInt64} {k : Nat} (hk : byteSize.toNat = 2 ^ k) :
    correctedSize byteSize = byteSize := by
  have h0 : byteSize ≠ 0 := fun h => by
    rw [h] at hk
    exact absurd hk (Nat.pow_pos (by omega)).ne
  -- The exponent is below the top bit, so the minimum is the logarithm.
  have hk63 : k ≤ 63 := by
    have hlt := byteSize.toNat_lt
    rw [hk] at hlt
    have hexp := (Nat.pow_lt_pow_iff_right (by omega)).mp hlt
    omega
  apply UInt64.toNat_inj.mp
  rw [correctedSize_toNat byteSize h0, hk, Nat.clog_pow 2 k (by omega), Nat.min_eq_left hk63]

theorem correctedSize_mono {m m' : UInt64} (h0 : m ≠ 0) (hle : m ≤ m') :
    correctedSize m ≤ correctedSize m' := by
  have hnat := UInt64.le_iff_toNat_le.mp hle
  have hpos : m.toNat ≠ 0 := fun h => h0 (UInt64.toNat_inj.mp h)
  have h0' : m' ≠ 0 := fun h => by
    rw [h] at hnat
    exact hpos (Nat.le_zero.mp hnat)
  rw [UInt64.le_iff_toNat_le, correctedSize_toNat m h0, correctedSize_toNat m' h0']
  have hlog := Nat.clog_mono_right 2 hnat
  exact Nat.pow_le_pow_right (by omega) (by omega)

/-- The correction of a request that is not zero is right. -/
theorem sizeCorrected (byteSize : UInt64) (h : byteSize ≠ 0) : SizeCorrected byteSize := by
  have hsize := correctedSize_toNat byteSize h
  refine ⟨fun n hn => ?_, ⟨_, hsize⟩, fun hle => ⟨?_, fun k hk => ?_⟩,
    fun k hk => correctedSize_pow hk, fun htop => ?_, fun m' hle => correctedSize_mono h hle,
    correctedSize_pow hsize⟩
  · -- The loop ends within 64 turns, and more of them change nothing.
    rcases correctLoop_spec byteSize 64 0 1 rfl (by omega) rfl with ⟨m, r, hr, _⟩
    have hloop : correctLoop 64 byteSize 1 = some (correctedSize byteSize) := by
      rw [correctedSize, if_neg h, hr, Option.getD_some]
    rw [← Nat.add_sub_of_le hn]
    exact correctLoop_fuel byteSize (n - 64) 64 1 _ hloop
  · have hlog := (Nat.clog_le_iff_le_pow (by omega)).mpr hle
    rw [UInt64.le_iff_toNat_le, hsize, Nat.min_eq_left hlog]
    exact Nat.le_pow_clog (by omega) _
  · have hlog := (Nat.clog_le_iff_le_pow (by omega)).mpr hk
    rw [hsize]
    exact Nat.pow_le_pow_right (by omega) (by omega)
  · have hlog := (Nat.lt_clog_iff_pow_lt (by omega)).mpr htop
    rw [hsize, Nat.min_eq_right (by omega)]

end QemuTestdrive
