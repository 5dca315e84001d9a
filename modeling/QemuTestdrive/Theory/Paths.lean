import QemuTestdrive.Core.Paths
import QemuTestdrive.Theory.Display

/-!
# Paths Are Whole

A buffer is doubled until the path fits, and the number of bytes is a word. The
doubling must come to an end before the word wraps, and a path that fills the buffer
must not be mistaken for one that fits.

The allocator sees to the first: it refuses a block of half the address space, and
no size skips the sizes from there to the end. So the sizes are powers of two times
the first one, without wrapping, for a `size_t` and for an `int` that is converted to
one. The second is in the comparisons. A path that is returned is the whole path the
system had in that round, with room for the NUL behind it.

## Main definitions

* `BlocksSettled`: The blocks of a call.
* `CurrentDirWhole`, `LinkTargetWhole`: What a path that is returned is.

## Theorems

* `toNat_double`, `toInt_double`: The sizes of the buffers.
* `exists_double_huge`: The doubling reaches a block that is refused.
* `currentDir_whole`: `get_dir`.
* `linkTarget_whole`: `push_link_target` on POSIX.
-/

namespace QemuTestdrive

open Growing Handles

section Sizes

/-- The sizes are not wrapped as long as they have been below half the words. -/
theorem toNat_double (m : UInt64) (n : Nat)
    (h : ∀ j < n, ((· * 2)^[j] m : UInt64).toNat < 2 ^ 63) :
    ((· * 2)^[n] m : UInt64).toNat = m.toNat * 2 ^ n := by
  induction n with
  | zero => rw [Function.iterate_zero_apply, Nat.pow_zero, Nat.mul_one]
  | succ n ih =>
      have hn := ih fun j hj => h j (Nat.lt_succ_of_lt hj)
      have hlt := h n (Nat.lt_succ_self n)
      have hmul := UInt64.toNat_mul ((· * 2)^[n] m) 2
      have htwo : (2 : UInt64).toNat = 2 := rfl
      rw [Function.iterate_succ_apply', hmul, htwo, Nat.mod_eq_of_lt (by omega), hn, Nat.pow_succ,
        Nat.mul_assoc]

/-- No word is doubled past the upper half of the words. -/
theorem exists_double_huge (m : UInt64) (hm : m ≠ 0) :
    ∃ n < 64, 2 ^ 63 ≤ ((· * 2)^[n] m : UInt64).toNat := by
  by_contra hnone
  have hlt : ∀ n < 64, ((· * 2)^[n] m : UInt64).toNat < 2 ^ 63 := by
    intro n hn
    by_contra hge
    exact hnone ⟨n, hn, by omega⟩
  -- Otherwise the last size would be the first one times 2^63.
  have hlast := toNat_double m 63 fun j hj => hlt j (by omega)
  have hpos : m.toNat ≠ 0 := fun hzero => hm (UInt64.toNat_inj.mp hzero)
  have hbound := hlt 63 (by omega)
  omega

/-- The sizes that an `int` of 256 is doubled to. -/
theorem toInt_double (n : Nat) (hn : n ≤ 22) :
    ((· * 2)^[n] (256 : Int32)).toInt = (256 * 2 ^ n : Nat) := by
  induction n with
  | zero => decide
  | succ n ih =>
      have hpow : 2 ^ n ≤ 2 ^ 21 := Nat.pow_le_pow_right (by omega) (by omega)
      have htwo : (2 : Int32).toInt = 2 := by decide
      rw [Function.iterate_succ_apply', Int32.toInt_mul, ih (by omega), htwo, Int.bmod_def,
        Nat.pow_succ]
      split
      · omega
      · omega

theorem toNat_sizeT {size : Int32} {n : Nat} (h : size.toInt = n) : (sizeT size).toNat = n := by
  have hnat := toNat_toUInt64 size.toInt64
  have hlt := size.toInt_lt
  rw [Int32.toInt_toInt64, h] at hnat
  unfold sizeT
  omega

/-- The size after the last one that an `int` holds. -/
theorem sizeT_double_huge : 2 ^ 63 ≤ (sizeT ((· * 2)^[23] 256)).toNat := by
  decide

end Sizes

/-- The blocks of a call: every one was released once, and used before. -/
def BlocksSettled (b : Buffer) : Prop :=
  Disciplined b.acts ∧ ∀ n, .acquire n ∈ b.acts → b.acts.count (.release n) = 1

section CurrentDir

variable (strerror : Int → List Char) (calls : DirCalls)

/-- `get_dir` is at the path `path` in the round `n`: every block up to there was
    allocated, the ones before were too small, and this one is not. -/
structure CwdAt (maxPathLen : UInt64) (n : Nat) (path : List Char) : Prop where
  allocated : ∀ j ≤ n, calls.realloc j ((· * 2)^[j] maxPathLen) = none
  whole : calls.getcwd n = .ok path
  room : path.length < maxPathLen.toNat * 2 ^ n
  before : ∀ j < n, calls.getcwd j = .error 34 ∨
    ∃ p, calls.getcwd j = .ok p ∧ maxPathLen.toNat * 2 ^ j ≤ p.length

theorem getDirRound_path_iff (k : Nat) (size : UInt64) (path : List Char) :
    (getDirRound strerror calls k size).result = some (.path path) ↔
      calls.realloc k size = none ∧ calls.getcwd k = .ok path ∧ path.length < size.toNat := by
  unfold getDirRound
  rcases calls.realloc k size with _ | e
  · rcases calls.getcwd k with e | p
    · by_cases he : e = 34
      · simp [he, Round.result]
      · simp [he, Round.result, pathError]
    · by_cases hp : p.length < size.toNat
      · simp only [hp, if_true, Round.result, Option.some.injEq, PathResult.path.injEq, true_and,
          Except.ok.injEq]
        exact ⟨fun heq => ⟨heq, heq ▸ hp⟩, And.left⟩
      · simp only [hp, if_false, Round.result, reduceCtorEq, true_and, Except.ok.injEq, false_iff]
        exact fun h => hp (h.1.symm ▸ h.2)
  · simp [Round.result, pathError]

theorem getDirRound_none_iff (k : Nat) (size : UInt64) :
    (getDirRound strerror calls k size).result = none ↔
      calls.realloc k size = none ∧ (calls.getcwd k = .error 34 ∨
        ∃ p, calls.getcwd k = .ok p ∧ size.toNat ≤ p.length) := by
  unfold getDirRound
  rcases calls.realloc k size with _ | e
  · rcases calls.getcwd k with e | p
    · by_cases he : e = 34
      · simp [he, Round.result]
      · simp [he, Round.result]
    · by_cases hp : p.length < size.toNat
      · simp [hp, Round.result]
      · simp [hp, Round.result, Nat.le_of_not_lt hp]
  · simp [Round.result]

/-- What `get_dir` returns. A path is the whole working directory of its round. If the
    directory stays the same and blocks below `limit` can be had, it is returned
    exactly when one of the sizes holds it and is below the limit. -/
structure CurrentDirWhole (maxPathLen : UInt64) (r : PathResult) : Prop where
  path_iff : ∀ p, r = .path p ↔ ∃ n, CwdAt calls maxPathLen n p
  fixed : ∀ p limit, limit ≤ 2 ^ 63 → (∀ k, calls.getcwd k = .ok p) →
    (∀ k size, calls.realloc k size = none ↔ size.toNat < limit) →
    (r = .path p ↔ ∃ n, p.length < maxPathLen.toNat * 2 ^ n ∧ maxPathLen.toNat * 2 ^ n < limit)

section Huge

variable {calls} {maxPathLen : UInt64}
  (hhuge : ∀ k (size : UInt64), 2 ^ 63 ≤ size.toNat → (calls.realloc k size).isSome)

include hhuge

theorem lt_of_allocated {k : Nat} {size : UInt64} (h : calls.realloc k size = none) :
    size.toNat < 2 ^ 63 := by
  by_contra hge
  have hsome := hhuge k size (by omega)
  rw [h] at hsome
  exact Bool.false_ne_true hsome

/-- The path of a round, in terms of the sizes without wrapping. -/
theorem cwdAt_iff (strerror : Int → List Char) (n : Nat) (p : List Char) :
    ((∀ j < n, (getDirRound strerror calls j ((· * 2)^[j] maxPathLen)).result = none) ∧
      (getDirRound strerror calls n ((· * 2)^[n] maxPathLen)).result = some (.path p)) ↔
        CwdAt calls maxPathLen n p := by
  simp only [getDirRound_none_iff, getDirRound_path_iff, rounds_iff]
  -- All the blocks were allocated, so none of the sizes has wrapped.
  have hsize : (∀ j ≤ n, calls.realloc j ((· * 2)^[j] maxPathLen) = none) →
      ∀ j ≤ n, ((· * 2)^[j] maxPathLen : UInt64).toNat = maxPathLen.toNat * 2 ^ j :=
    fun hok j hj => toNat_double maxPathLen j fun i hi => lt_of_allocated hhuge (hok i (by omega))
  constructor
  · rintro ⟨hok, ⟨hwhole, hroom⟩, hsmall⟩
    refine ⟨hok, hwhole, hsize hok n (Nat.le_refl n) ▸ hroom, fun j hj => ?_⟩
    rw [← hsize hok j (Nat.le_of_lt hj)]
    exact hsmall j hj
  · intro h
    refine ⟨h.allocated, ⟨h.whole, (hsize h.allocated n (Nat.le_refl n)).symm ▸ h.room⟩,
      fun j hj => ?_⟩
    rw [hsize h.allocated j (Nat.le_of_lt hj)]
    exact h.before j hj

/-- A path comes before the doubling would wrap. -/
theorem CwdAt.lt (hm : maxPathLen ≠ 0) {n : Nat} {p : List Char} (h : CwdAt calls maxPathLen n p) :
    n < 64 := by
  rcases exists_double_huge maxPathLen hm with ⟨n₀, hn₀, hbig⟩
  by_contra hge
  have hlt := lt_of_allocated hhuge (h.allocated n₀ (by omega))
  omega

/-- With one directory all along, a path comes exactly when a size below the limit
    holds it. -/
theorem exists_cwdAt_iff {p : List Char} {limit : Nat} (hlimit : limit ≤ 2 ^ 63)
    (hp : ∀ k, calls.getcwd k = .ok p)
    (hserved : ∀ k size, calls.realloc k size = none ↔ size.toNat < limit) :
    (∃ n, CwdAt calls maxPathLen n p) ↔
      ∃ n, p.length < maxPathLen.toNat * 2 ^ n ∧ maxPathLen.toNat * 2 ^ n < limit := by
  constructor
  · rintro ⟨n, hn⟩
    have hsize := toNat_double maxPathLen n fun j hj =>
      lt_of_allocated hhuge (hn.allocated j (Nat.le_of_lt hj))
    exact ⟨n, hn.room, hsize ▸ (hserved n _).mp (hn.allocated n (Nat.le_refl n))⟩
  · intro hex
    -- The first size that holds the path is no larger than the one that is given.
    have hfirst : ∃ n, p.length < maxPathLen.toNat * 2 ^ n := hex.imp fun n hn => hn.1
    rcases hex with ⟨n, hroom, hbelow⟩
    have hle : Nat.find hfirst ≤ n := Nat.find_min' hfirst hroom
    have hmono : ∀ j ≤ n, maxPathLen.toNat * 2 ^ j < limit := fun j hj =>
      Nat.lt_of_le_of_lt (Nat.mul_le_mul_left _ (Nat.pow_le_pow_right (by omega) hj)) hbelow
    have hsize : ∀ j ≤ n, ((· * 2)^[j] maxPathLen : UInt64).toNat = maxPathLen.toNat * 2 ^ j := by
      intro j
      induction j using Nat.strong_induction_on with
      | _ j ih =>
          intro hj
          refine toNat_double maxPathLen j fun i hi => ?_
          have hi' := hmono i (by omega)
          rw [ih i hi (by omega)]
          omega
    refine ⟨Nat.find hfirst, fun j hj => ?_, hp _, Nat.find_spec hfirst, fun j hj => ?_⟩
    · rw [hserved, hsize j (by omega)]
      exact hmono j (by omega)
    · exact Or.inr ⟨p, hp j, Nat.le_of_not_lt (Nat.find_min hfirst hj)⟩

end Huge

/-- `get_dir` ends, with every block released once, for an allocator that refuses
    half of the address space. What it returns as the working directory is the whole
    of it. -/
theorem currentDir_whole (maxPathLen : UInt64) (hm : maxPathLen ≠ 0)
    (hhuge : ∀ k (size : UInt64), 2 ^ 63 ≤ size.toNat → (calls.realloc k size).isSome) :
    ∃ r b, getDir strerror calls maxPathLen 64 = some (r, b) ∧ BlocksSettled b ∧
      CurrentDirWhole calls maxPathLen r := by
  rcases exists_double_huge maxPathLen hm with ⟨n₀, hn₀, hbig⟩
  have hend : (getDirRound strerror calls n₀ ((· * 2)^[n₀] maxPathLen)).result.isSome := by
    rw [Option.isSome_iff_ne_none]
    intro hnone
    have hlt := lt_of_allocated hhuge ((getDirRound_none_iff strerror calls _ _).mp hnone).1
    omega
  rcases grow_total hn₀ hend with ⟨r, b, hgrow, hblocks, hr⟩
  have hpath : ∀ p, r = .path p ↔ ∃ n, CwdAt calls maxPathLen n p := by
    intro p
    rw [hr]
    constructor
    · rintro ⟨n, _, hn⟩
      exact ⟨n, (cwdAt_iff hhuge strerror n p).mp hn⟩
    · rintro ⟨n, hn⟩
      exact ⟨n, hn.lt hhuge hm, (cwdAt_iff hhuge strerror n p).mpr hn⟩
  refine ⟨r, b.free, by rw [getDir, hgrow]; rfl, hblocks, hpath, fun p limit hlimit hp hserved => ?_⟩
  rw [hpath]
  exact exists_cwdAt_iff hhuge hlimit hp hserved

/-- A first buffer that is too small. -/
theorem currentDir_whole_growing :
    ∃ r b, getDir (fun _ => [])
        { realloc := fun _ size => if size.toNat < 2 ^ 63 then none else some 12
          getcwd := fun k => if k = 0 then .error 34 else .ok ['/', 'd'] }
        Windows.maxPathLen 64 = some (r, b) ∧ BlocksSettled b ∧
      CurrentDirWhole
        { realloc := fun _ size => if size.toNat < 2 ^ 63 then none else some 12
          getcwd := fun k => if k = 0 then .error 34 else .ok ['/', 'd'] } Windows.maxPathLen r :=
  currentDir_whole (fun _ => []) _ Windows.maxPathLen (by decide) fun k size hsize => by
    simp only [if_neg (Nat.not_lt.mpr hsize), Option.isSome_some]

end CurrentDir

namespace Posix

variable (calls : LinkCalls)

/-- The comparisons of a round whose size is the number `m`, which an `int` holds. -/
theorem linkRound_eq {k m : Nat} {size : Int32} (hm : m ≤ 2 ^ 30) (hsize : size.toInt = m) :
    linkRound calls k size =
      fitting (calls.realloc k (sizeT size)) (calls.readlink k) m none id := by
  unfold linkRound fitting
  rw [toNat_sizeT hsize]
  congr 1
  rcases calls.readlink k with _ | target
  · rfl
  · -- What `readlink` has written is no longer than the buffer, so it is an `int`.
    have hlen : (target.take m).length = min m target.length := List.length_take
    have hint : (Int32.ofNat (target.take m).length).toInt = (target.take m).length :=
      Int32.toInt_ofNat_of_lt (by omega)
    simp only [Int32.lt_iff_toInt_lt, hint, hsize]
    rw [if_neg (by simp)]
    by_cases hfits : target.length < m
    · rw [if_pos hfits, if_pos (by omega), List.take_of_length_le (Nat.le_of_lt hfits), id]
    · rw [if_neg hfits, if_neg (by omega)]

/-- `push_link_target` is at the target `t` in the round `n`: every block up to there
    was allocated, the ones before were too small, and this one is not. -/
structure LinkAt (n : Nat) (t : List Char) : Prop where
  int : n ≤ 22
  allocated : ∀ j ≤ n, calls.realloc j (sizeT ((· * 2)^[j] 256)) = true
  whole : calls.readlink n = some t
  room : t.length < 256 * 2 ^ n
  before : ∀ j < n, ∃ t', calls.readlink j = some t' ∧ 256 * 2 ^ j ≤ t'.length

/-- What `push_link_target` leaves behind. A target is the whole target of its round.
    If the link stays the same and blocks below `limit` can be had, it is left behind
    exactly when one of the sizes holds it and is below the limit; and if there is no
    other limit, exactly when it is shorter than a gigabyte. -/
structure LinkTargetWhole (r : Option (List Char)) : Prop where
  target_iff : ∀ t, r = some t ↔ ∃ n, LinkAt calls n t
  fixed : ∀ t limit, (∀ k, calls.readlink k = some t) →
    (∀ k size, calls.realloc k size = true ↔ size.toNat < limit) →
    (r = some t ↔ ∃ n ≤ 22, t.length < 256 * 2 ^ n ∧ 256 * 2 ^ n < limit)
  unlimited : ∀ t, (∀ k, calls.readlink k = some t) →
    (∀ k size, calls.realloc k size = true ↔ size.toNat < 2 ^ 63) →
    (r = some t ↔ t.length < 2 ^ 30)

variable {calls}

/-- The target of a round, in terms of the sizes without wrapping. -/
theorem linkAt_iff {n : Nat} (hn : n ≤ 22) (t : List Char) :
    ((∀ j < n, (linkRound calls j ((· * 2)^[j] 256)).result = none) ∧
      (linkRound calls n ((· * 2)^[n] 256)).result = some (some t)) ↔ LinkAt calls n t := by
  have heq : ∀ j ≤ n, linkRound calls j ((· * 2)^[j] 256) =
      fitting (calls.realloc j (sizeT ((· * 2)^[j] 256))) (calls.readlink j) (256 * 2 ^ j)
        none id := by
    intro j hj
    have hpow : 2 ^ j ≤ 2 ^ 22 := Nat.pow_le_pow_right (by omega) (by omega)
    exact linkRound_eq calls (by omega) (toInt_double j (by omega))
  have hbefore : (∀ j < n, (linkRound calls j ((· * 2)^[j] 256)).result = none) ↔
      ∀ j < n, calls.realloc j (sizeT ((· * 2)^[j] 256)) = true ∧
        ∃ t, calls.readlink j = some t ∧ 256 * 2 ^ j ≤ t.length :=
    forall₂_congr fun j hj => by rw [heq j (Nat.le_of_lt hj), fitting_none_iff]
  rw [hbefore, heq n (Nat.le_refl n), fitting_some_iff, rounds_iff]
  simp only [reduceCtorEq, and_false, false_or, id]
  constructor
  · rintro ⟨hok, ⟨p, hp, hroom, rfl⟩, hsmall⟩
    exact ⟨hn, hok, hp, hroom, hsmall⟩
  · intro h
    exact ⟨h.allocated, ⟨t, h.whole, h.room, rfl⟩, h.before⟩

/-- With one target all along, it comes exactly when a size below the limit holds
    it. -/
theorem exists_linkAt_iff {t : List Char} {limit : Nat} (ht : ∀ k, calls.readlink k = some t)
    (hserved : ∀ k size, calls.realloc k size = true ↔ size.toNat < limit) :
    (∃ n, LinkAt calls n t) ↔ ∃ n ≤ 22, t.length < 256 * 2 ^ n ∧ 256 * 2 ^ n < limit := by
  constructor
  · rintro ⟨n, hn⟩
    have hsize := toNat_sizeT (toInt_double n hn.int)
    exact ⟨n, hn.int, hn.room, hsize ▸ (hserved n _).mp (hn.allocated n (Nat.le_refl n))⟩
  · intro hex
    have hfirst : ∃ n, t.length < 256 * 2 ^ n := hex.imp fun n hn => hn.2.1
    rcases hex with ⟨n, hn, hroom, hbelow⟩
    have hle : Nat.find hfirst ≤ n := Nat.find_min' hfirst hroom
    refine ⟨Nat.find hfirst, by omega, fun j hj => ?_, ht _, Nat.find_spec hfirst, fun j hj => ?_⟩
    · rw [hserved, toNat_sizeT (toInt_double j (by omega))]
      exact Nat.lt_of_le_of_lt
        (Nat.mul_le_mul_left _ (Nat.pow_le_pow_right (by omega) (by omega))) hbelow
    · exact ⟨t, ht j, Nat.le_of_not_lt (Nat.find_min hfirst hj)⟩

end Posix

namespace Windows

variable (calls : FinalPathCalls)

theorem toNat_toUInt32 {size : Int32} {n : Nat} (h : size.toInt = n) : size.toUInt32.toNat = n := by
  have hnat : size.toUInt32.toNat = size.toBitVec.toNat := rfl
  have hint : size.toInt = size.toBitVec.toInt := rfl
  have hlt := size.toBitVec.isLt
  rw [hint, BitVec.toInt_eq_toNat_cond] at h
  split at h
  · omega
  · omega

/-- The comparisons of a round whose size is the number `m`, which an `int` holds, for
    a path of the length that Windows allows. -/
theorem linkRound_eq {k m : Nat} {size : Int32} (hpos : 0 < m) (hsize : size.toInt = m)
    (hpath : ∀ p, calls.finalPath k = some p → p.length < 2 ^ 15) :
    linkRound calls k size =
      fitting (calls.realloc k (sizeT size)) (calls.finalPath k) m (some []) stripPrefix := by
  unfold linkRound finalPathName fitting
  simp only [toNat_toUInt32 hsize]
  congr 1
  rcases hp : calls.finalPath k with _ | path
  · -- A failure is taken for a path of no length.
    simp only [Int32.lt_iff_toInt_lt, hsize, Int32.toInt_ofNat_of_lt (show 0 < 2 ^ 31 by omega)]
    rw [if_neg (by simp), if_pos (by simp [hpos])]
    rfl
  · have hlen := hpath path hp
    by_cases hfits : path.length < m
    · have hint : (Int32.ofNat path.length).toInt = path.length :=
        Int32.toInt_ofNat_of_lt (by omega)
      simp only [if_pos hfits, Int32.lt_iff_toInt_lt, hint, hsize]
      rw [if_neg (by simp), if_pos (by omega)]
    · have hint : (Int32.ofNat (path.length + 1)).toInt = (path.length + 1 : Nat) :=
        Int32.toInt_ofNat_of_lt (by omega)
      simp only [if_neg hfits, Int32.lt_iff_toInt_lt, hint, hsize]
      rw [if_neg (by simp; omega), if_neg (by omega)]

/-- `push_link_target` has an answer in the round `n`. One that the system refuses is
    taken for an empty path. -/
structure FinalAt (n : Nat) (t : List Char) : Prop where
  allocated : ∀ j ≤ n, calls.realloc j (sizeT ((· * 2)^[j] 256)) = true
  answer : calls.finalPath n = none ∧ some [] = some t ∨
    ∃ p, calls.finalPath n = some p ∧ p.length < 256 * 2 ^ n ∧ stripPrefix p = t
  before : ∀ j < n, ∃ p, calls.finalPath j = some p ∧ 256 * 2 ^ j ≤ p.length

variable {calls} (hpath : ∀ k p, calls.finalPath k = some p → p.length < 2 ^ 15)

include hpath

/-- Every path fits in the buffer of the eighth round. -/
theorem FinalAt.lt {n : Nat} {t : List Char} (h : FinalAt calls n t) : n < 8 := by
  by_contra hge
  rcases h.before 7 (by omega) with ⟨p, hp, hlong⟩
  have hlen := hpath 7 p hp
  omega

/-- The answer of a round, in terms of the sizes without wrapping. -/
theorem finalAt_iff {n : Nat} (hn : n ≤ 22) (t : List Char) :
    ((∀ j < n, (linkRound calls j ((· * 2)^[j] 256)).result = none) ∧
      (linkRound calls n ((· * 2)^[n] 256)).result = some (some t)) ↔ FinalAt calls n t := by
  have heq : ∀ j ≤ n, linkRound calls j ((· * 2)^[j] 256) =
      fitting (calls.realloc j (sizeT ((· * 2)^[j] 256))) (calls.finalPath j) (256 * 2 ^ j)
        (some []) stripPrefix := fun j hj =>
    linkRound_eq calls (Nat.mul_pos (by omega) (Nat.two_pow_pos j)) (toInt_double j (by omega))
      (hpath j)
  have hbefore : (∀ j < n, (linkRound calls j ((· * 2)^[j] 256)).result = none) ↔
      ∀ j < n, calls.realloc j (sizeT ((· * 2)^[j] 256)) = true ∧
        ∃ p, calls.finalPath j = some p ∧ 256 * 2 ^ j ≤ p.length :=
    forall₂_congr fun j hj => by rw [heq j (Nat.le_of_lt hj), fitting_none_iff]
  rw [hbefore, heq n (Nat.le_refl n), fitting_some_iff, rounds_iff]
  constructor
  · rintro ⟨hok, hanswer, hsmall⟩
    exact ⟨hok, hanswer, hsmall⟩
  · intro h
    exact ⟨h.allocated, h.answer, h.before⟩

end Windows

namespace Posix

/-- `push_link_target` on POSIX ends, for an allocator that refuses half of the address
    space. -/
theorem pushLinkTarget_ends (calls : LinkCalls)
    (hhuge : ∀ k (size : UInt64), 2 ^ 63 ≤ size.toNat → calls.realloc k size = false) :
    ∃ r b, pushLinkTarget calls 24 = some (r, b) ∧ BlocksSettled b ∧
      ∀ t, r = some t ↔ ∃ n, LinkAt calls n t := by
  have hrefused : (linkRound calls 23 ((· * 2)^[23] 256)).result = some none := by
    rw [linkRound, hhuge 23 _ sizeT_double_huge]
    rfl
  have hend : (linkRound calls 23 ((· * 2)^[23] 256)).result.isSome := by
    rw [hrefused]
    rfl
  have hfuel : 23 < 24 := by omega
  rcases grow_total hfuel hend with ⟨r, b, hgrow, hblocks, hr⟩
  refine ⟨r, b.free, by rw [pushLinkTarget, hgrow]; rfl, hblocks, fun t => ?_⟩
  rw [hr]
  constructor
  · rintro ⟨n, hn, hround⟩
    -- The round after the largest `int` has no target.
    have hne : n ≠ 23 := by
      rintro rfl
      rw [hrefused] at hround
      exact Option.some_ne_none t (Option.some.inj hround.2).symm
    exact ⟨n, (linkAt_iff (by omega) t).mp hround⟩
  · rintro ⟨n, hn⟩
    have hint := hn.int
    exact ⟨n, by omega, (linkAt_iff hn.int t).mpr hn⟩

end Posix

/-- `push_link_target` on POSIX ends, with every block released once, for an allocator
    that refuses half of the address space. What it leaves behind as the target of a
    link is the whole of it. -/
theorem linkTarget_whole (calls : LinkCalls)
    (hhuge : ∀ k (size : UInt64), 2 ^ 63 ≤ size.toNat → calls.realloc k size = false) :
    ∃ r b, Posix.pushLinkTarget calls 24 = some (r, b) ∧ BlocksSettled b ∧
      Posix.LinkTargetWhole calls r := by
  rcases Posix.pushLinkTarget_ends calls hhuge with ⟨r, b, hresult, hblocks, htarget⟩
  refine ⟨r, b, hresult, hblocks, htarget, fun t limit ht hserved => ?_, fun t ht hserved => ?_⟩
  · rw [htarget]
    exact Posix.exists_linkAt_iff ht hserved
  · rw [htarget, Posix.exists_linkAt_iff ht hserved]
    constructor
    · rintro ⟨n, hn, hroom, _⟩
      have hpow : 2 ^ n ≤ 2 ^ 22 := Nat.pow_le_pow_right (by omega) hn
      omega
    · intro hlt
      exact ⟨22, Nat.le_refl 22, by omega, by omega⟩

/-- A target that fills the first buffer, and so might have been cut off. -/
theorem linkTarget_whole_full :
    ∃ r b, Posix.pushLinkTarget
        { realloc := fun _ size => decide (size.toNat < 2 ^ 63)
          readlink := fun _ => some (List.replicate 256 'd'), errno := 0 } 24 = some (r, b) ∧
      BlocksSettled b ∧
      Posix.LinkTargetWhole
        { realloc := fun _ size => decide (size.toNat < 2 ^ 63)
          readlink := fun _ => some (List.replicate 256 'd'), errno := 0 } r :=
  linkTarget_whole _ fun _ _ hsize => decide_eq_false (Nat.not_lt.mpr hsize)

/-- `push_link_target` on Windows ends, for paths of the length that Windows allows. -/
theorem Windows.pushLinkTarget_ends (calls : FinalPathCalls)
    (hpath : ∀ k p, calls.finalPath k = some p → p.length < 2 ^ 15) :
    ∃ r b, pushLinkTarget calls 24 = some (r, b) ∧ BlocksSettled b ∧
      (∀ en, r = .refused en ↔ calls.createFile = some en) ∧
      ∀ t, r = .opened (some t) ↔ calls.createFile = none ∧ ∃ n, FinalAt calls n t := by
  unfold pushLinkTarget
  rcases calls.createFile with _ | en
  · have hend : (linkRound calls 7 ((· * 2)^[7] 256)).result.isSome := by
      rw [Option.isSome_iff_ne_none]
      intro hnone
      rw [linkRound_eq calls (by omega) (toInt_double 7 (by omega)) (hpath 7),
        fitting_none_iff] at hnone
      rcases hnone.2 with ⟨p, hp, hlong⟩
      have hlen := hpath 7 p hp
      omega
    have hfuel : 7 < 24 := by omega
    rcases grow_total hfuel hend with ⟨r, b, hgrow, hblocks, hr⟩
    refine ⟨.opened r, b.free, by rw [hgrow]; rfl, hblocks, fun en => by simp, fun t => ?_⟩
    rw [LinkReturn.opened.injEq, hr, and_iff_right rfl]
    constructor
    · rintro ⟨n, hn, hround⟩
      have hle : n ≤ 7 := by
        by_contra hgt
        rw [hround.1 7 (by omega)] at hend
        exact Bool.false_ne_true hend
      exact ⟨n, (finalAt_iff hpath (by omega) t).mp hround⟩
    · rintro ⟨n, hn⟩
      have hlt := hn.lt hpath
      exact ⟨n, by omega, (finalAt_iff hpath (by omega) t).mpr hn⟩
  · refine ⟨.refused en, .empty, rfl, ⟨disciplined_nil, fun n hn => absurd hn List.not_mem_nil⟩,
      fun en' => by simp, fun t => by simp⟩

end QemuTestdrive
