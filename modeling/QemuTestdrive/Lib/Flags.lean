import QemuTestdrive.Lib.Positional
import Mathlib.Data.List.Forall2

/-!
# Flags as Letters

The low bits of a number are written with one letter each, the most significant bit
first. A bit that is set is written as its own letter, and one that is not as the same
character for all of them. The letters may repeat, since it is the place that says
which bit is meant.

Read as digits, the letters give the number back, and what reads as a number is
written as it was.

## Main definitions

* `write`: The letters of a number.
* `read`: The number of the letters.
* `Spelled`: Letters in their places.

## Theorems

* `read_write`: A number reads back, up to the bits that have no letter.
* `write_read`: Letters are written as they were.
* `write_eq_iff`: What is written, by how it reads.
* `read_lt`: What the letters can say.
-/

namespace Flags

/-- The letter of each bit of `n` that is set, and `off` for the others. -/
def write (off : Char) : List Char → Nat → List Char
  | [], _ => []
  | c :: cs, n => (if n.testBit cs.length then c else off) :: write off cs n

/-- The number with the bits that `s` does not have `off` for. -/
def read (off : Char) (s : List Char) : Nat :=
  Positional.value (fun c => if c = off then 0 else 1) 2 s

/-- Every character is `off` or the letter in its place. -/
def Spelled (off : Char) (letters s : List Char) : Prop :=
  List.Forall₂ (fun c l => c = off ∨ c = l) s letters

theorem write_length (off : Char) (letters : List Char) (n : Nat) :
    (write off letters n).length = letters.length := by
  induction letters with
  | nil => rfl
  | cons c cs ih => rw [write, List.length_cons, List.length_cons, ih]

/-- Only the bits that have a letter count. -/
theorem write_congr (off : Char) (letters : List Char) {m n : Nat}
    (h : ∀ i < letters.length, m.testBit i = n.testBit i) :
    write off letters m = write off letters n := by
  induction letters with
  | nil => rfl
  | cons c cs ih =>
      rw [write, write, h cs.length (by simp), ih fun i hi => h i (by rw [List.length_cons]; omega)]

theorem spelled_write (off : Char) (letters : List Char) (n : Nat) :
    Spelled off letters (write off letters n) := by
  induction letters with
  | nil => exact List.Forall₂.nil
  | cons c cs ih =>
      refine List.Forall₂.cons ?_ ih
      by_cases hbit : n.testBit cs.length
      · rw [if_pos hbit]
        exact Or.inr rfl
      · rw [if_neg hbit]
        exact Or.inl rfl

theorem read_cons (off c : Char) (s : List Char) :
    read off (c :: s) = (if c = off then 0 else 2 ^ s.length) + read off s := by
  unfold read
  rw [Positional.value_cons]
  by_cases hc : c = off
  · simp [hc]
  · simp [hc]

theorem read_lt (off : Char) (s : List Char) : read off s < 2 ^ s.length := by
  induction s with
  | nil => exact Nat.one_pos
  | cons c s ih =>
      rw [read_cons, List.length_cons, Nat.pow_succ]
      split
      · omega
      · omega

/-- A number reads back, up to the bits that have no letter. -/
theorem read_write {off : Char} {letters : List Char} (hoff : off ∉ letters) (n : Nat) :
    read off (write off letters n) = n % 2 ^ letters.length := by
  induction letters with
  | nil => rw [List.length_nil, Nat.pow_zero, Nat.mod_one]; rfl
  | cons c cs ih =>
      rw [List.mem_cons, not_or] at hoff
      have hbit := Nat.testBit_eq_decide_div_mod_eq (x := n) (i := cs.length)
      rw [write, read_cons, write_length, ih hoff.2, List.length_cons, Nat.mod_pow_succ]
      by_cases hset : n / 2 ^ cs.length % 2 = 1
      · rw [hbit, decide_eq_true hset, if_pos rfl, if_neg (Ne.symm hoff.1), hset, Nat.mul_one,
          Nat.add_comm]
      · have hclear : n / 2 ^ cs.length % 2 = 0 := by omega
        rw [hbit, decide_eq_false hset, if_neg Bool.false_ne_true, if_pos rfl, hclear, Nat.mul_zero,
          Nat.zero_add, Nat.add_zero]

/-- Letters are written as they were. -/
theorem write_read {off : Char} {letters s : List Char} (hoff : off ∉ letters)
    (hs : Spelled off letters s) : write off letters (read off s) = s := by
  induction hs with
  | nil => rfl
  | @cons c l s letters hc hs ih =>
      rw [List.mem_cons, not_or] at hoff
      have hlen : s.length = letters.length := hs.length_eq
      have hlt := read_lt off s
      -- The bits below the first one are those of the other letters.
      have hrest : write off letters (read off (c :: s)) = s := by
        rw [← ih hoff.2]
        refine write_congr off letters fun i hi => ?_
        rw [read_cons, ih hoff.2]
        split
        · rw [Nat.zero_add]
        · rw [hlen, Nat.testBit_two_pow_add_gt hi]
      rw [write, hrest, read_cons]
      by_cases hzero : c = off
      · rw [if_pos hzero, Nat.zero_add, ← hlen, Nat.testBit_lt_two_pow hlt, if_neg Bool.false_ne_true,
          hzero]
      · rw [if_neg hzero, ← hlen, Nat.testBit_two_pow_add_eq, Nat.testBit_lt_two_pow hlt,
          Bool.not_false, if_pos rfl, hc.resolve_left hzero]

/-- The letters of a number are those that read as it. -/
theorem write_eq_iff {off : Char} {letters : List Char} (hoff : off ∉ letters) (n : Nat)
    (s : List Char) :
    write off letters n = s ↔ Spelled off letters s ∧ read off s = n % 2 ^ letters.length := by
  constructor
  · intro h
    rw [← h]
    exact ⟨spelled_write off letters n, read_write hoff n⟩
  · rintro ⟨hs, hread⟩
    rw [← write_read hoff hs, hread]
    refine write_congr off letters fun i hi => ?_
    rw [Nat.testBit_mod_two_pow, decide_eq_true hi, Bool.true_and]

end Flags
