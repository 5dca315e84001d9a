import Mathlib.Algebra.Group.Nat.Defs
import Mathlib.Tactic.Common

/-!
# Byte-Addressed Memory

A memory is a function from addresses to bytes. `load` and `store` move numbers
of a given number of bytes in little-endian order.

One memory can be seen through another: a host program keeps the memory of a
device as a block of its own, at some host address. `View` says that a block of
one memory holds what a block of another does, and loads and stores inside the
block commute with it.

## Main definitions

* `load`: The little-endian number of some bytes.
* `store`: The memory with the bytes of a number written to it.
* `View`: A block of one memory is a block of another.
* `copy`: Bytes of one memory copied to another.

## Theorems

* `load_lt`: A load of `n` bytes is below `256 ^ n`.
* `store_inside`, `store_outside`: The bytes a store writes, and the others.
* `load_store_inside`: A load of bytes that were stored.
* `load_store_outside`: A load of bytes beside those that were stored.
* `View.load_eq`: A load inside the block reads the same through the view.
* `View.store`: A store inside the block keeps the view.
* `copy_inside`, `copy_self`: What has been copied, and a copy onto itself.
-/

namespace ByteMemory

/-- The little-endian number of the `n` bytes at `a`. -/
def load (m : Nat → UInt8) (a : Nat) : Nat → Nat
  | 0 => 0
  | n + 1 => (m a).toNat + 256 * load m (a + 1) n

/-- The memory after writing the low `n` bytes of `v` at `a`. -/
def store (m : Nat → UInt8) (a n v : Nat) : Nat → UInt8 :=
  fun i => if a ≤ i ∧ i < a + n then UInt8.ofNat (v / 256 ^ (i - a)) else m i

theorem load_lt (m : Nat → UInt8) (a n : Nat) : load m a n < 256 ^ n := by
  induction n generalizing a with
  | zero => exact Nat.one_pos
  | succ n ih =>
      -- The first byte, and the rest one place up.
      have hbyte : (m a).toNat < 256 := (m a).toNat_lt
      have hrest := ih (a + 1)
      rw [load, Nat.pow_succ]
      omega

theorem store_inside (m : Nat → UInt8) (a n v i : Nat) (ha : a ≤ i) (hn : i < a + n) :
    store m a n v i = UInt8.ofNat (v / 256 ^ (i - a)) :=
  if_pos ⟨ha, hn⟩

theorem store_outside (m : Nat → UInt8) (a n v i : Nat) (h : i < a ∨ a + n ≤ i) :
    store m a n v i = m i := by
  rw [store, if_neg (by omega)]

/-- A load reads only its own bytes. -/
theorem load_congr {m m' : Nat → UInt8} {a : Nat} (n : Nat) :
    (∀ i, a ≤ i → i < a + n → m i = m' i) → load m a n = load m' a n := by
  induction n generalizing a with
  | zero => intro _; rfl
  | succ n ih =>
      intro h
      rw [load, load, h a (Nat.le_refl a) (by omega),
        ih fun i hlo hhi => h i (by omega) (by omega)]

/-- A load inside the range of a store gets the digits of the number that was stored. -/
theorem load_store_inside (m : Nat → UInt8) (a n v : Nat) (k : Nat) :
    ∀ b, a ≤ b → b + k ≤ a + n →
      load (store m a n v) b k = v / 256 ^ (b - a) % 256 ^ k := by
  induction k with
  | zero => intro b _ _; rw [load, Nat.pow_zero, Nat.mod_one]
  | succ k ih =>
      intro b hlo hhi
      -- The first byte is the lowest digit, and the rest are those of the quotient.
      have hbyte : (store m a n v b).toNat = v / 256 ^ (b - a) % 256 := by
        rw [store_inside m a n v b hlo (by omega), UInt8.toNat_ofNat']
      have hrest : v / 256 ^ (b + 1 - a) = v / 256 ^ (b - a) / 256 := by
        rw [Nat.div_div_eq_div_mul, ← Nat.pow_succ, show b + 1 - a = b - a + 1 by omega]
      rw [load, hbyte, ih (b + 1) (by omega) (by omega), hrest, Nat.pow_succ', Nat.mod_mul]

/-- A load beside the range of a store does not see it. -/
theorem load_store_outside (m : Nat → UInt8) (a n v b k : Nat)
    (h : b + k ≤ a ∨ a + n ≤ b) : load (store m a n v) b k = load m b k :=
  load_congr k fun i hlo hhi => store_outside m a n v i (by omega)

/-- The `size` bytes of `m` at `host` are the `size` bytes of `bus` at `base`. -/
def View (m : Nat → UInt8) (host : Nat) (bus : Nat → UInt8) (base size : Nat) : Prop :=
  ∀ i, i < size → m (host + i) = bus (base + i)

theorem View.load_eq {m bus : Nat → UInt8} {host base size : Nat}
    (h : View m host bus base size) (n : Nat) :
    ∀ k, k + n ≤ size → load m (host + k) n = load bus (base + k) n := by
  induction n with
  | zero => intro k _; rfl
  | succ n ih =>
      intro k hk
      rw [load, load, h k (by omega), Nat.add_assoc, ih (k + 1) (by omega), Nat.add_assoc]

theorem View.store {m bus : Nat → UInt8} {host base size : Nat}
    (h : View m host bus base size) (k n v : Nat) :
    View (store m (host + k) n v) host (store bus (base + k) n v) base size := by
  intro i hi
  unfold ByteMemory.store
  -- The byte at `i` is stored on both sides or on neither.
  by_cases hin : k ≤ i ∧ i < k + n
  · rw [if_pos (by omega), if_pos (by omega), show host + i - (host + k) = i - k by omega,
      show base + i - (base + k) = i - k by omega]
  · rw [if_neg (by omega), if_neg (by omega)]
    exact h i hi

/-- The memory `old` after the `n` bytes of `m` at `src` have been copied to `dst`. -/
def copy (m : Nat → UInt8) (src : Nat) (old : Nat → UInt8) (dst n : Nat) : Nat → UInt8 :=
  fun i => if dst ≤ i ∧ i < dst + n then m (src + (i - dst)) else old i

theorem copy_inside (m : Nat → UInt8) (src : Nat) (old : Nat → UInt8) (dst n i : Nat)
    (hi : i < n) : copy m src old dst n (dst + i) = m (src + i) := by
  rw [copy, if_pos (by omega), show dst + i - dst = i by omega]

/-- Bytes that are copied onto themselves stay. -/
theorem copy_self (m : Nat → UInt8) (a n : Nat) : copy m a m a n = m := by
  funext i
  unfold copy
  by_cases hi : a ≤ i ∧ i < a + n
  · rw [if_pos hi, show a + (i - a) = i by omega]
  · exact if_neg hi

end ByteMemory
