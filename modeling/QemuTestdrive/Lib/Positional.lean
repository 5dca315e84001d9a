import Mathlib.Data.List.Induction
import Mathlib.Data.Nat.Bitwise
import Mathlib.Tactic.Common

/-!
# Positional Notation

The number a list of digits denotes in a base, with the most significant digit
first. The digits are of any type, with a function for what each of them counts,
so a reader that accepts several characters for one digit is covered.

`Nat.toDigits` writes a number with the characters of `Nat.digitChar`. Reading
them gives the number back for every reading that counts those characters right.

## Main definitions

* `value`: The number a list of digits denotes.

## Theorems

* `value_concat`, `value_append`, `value_cons`: More digits behind or in front.
* `value_lt`: A number has fewer digits than its bound.
* `value_map`: Digits that are translated before they are counted.
* `mem_toDigits`: The digits a number is written with.
* `toDigits_cons`: The first digit of a number is not zero.
* `value_toDigits`: A number that is written reads back.
-/

namespace Positional

/-- The number the digits `ds` denote. -/
def value {α : Type*} (digit : α → Nat) (base : Nat) (ds : List α) : Nat :=
  ds.foldl (fun acc c => acc * base + digit c) 0

theorem value_concat {α : Type*} (digit : α → Nat) (base : Nat) (ds : List α) (c : α) :
    value digit base (ds ++ [c]) = value digit base ds * base + digit c := by
  unfold value
  rw [List.foldl_append]
  rfl

/-- The digits in front count for as many places as there are digits behind them. -/
theorem value_append {α : Type*} (digit : α → Nat) (base : Nat) (cs ds : List α) :
    value digit base (cs ++ ds) = value digit base cs * base ^ ds.length + value digit base ds := by
  induction ds using List.reverseRecOn with
  | nil => simp [value]
  | append_singleton ds d ih =>
      rw [← List.append_assoc, value_concat, ih, value_concat, List.length_append,
        List.length_singleton, Nat.pow_succ, Nat.add_mul, Nat.mul_assoc, Nat.add_assoc]

theorem value_cons {α : Type*} (digit : α → Nat) (base : Nat) (c : α) (ds : List α) :
    value digit base (c :: ds) = digit c * base ^ ds.length + value digit base ds := by
  have hhead : value digit base [c] = digit c := by
    rw [value, List.foldl_cons, List.foldl_nil, Nat.zero_mul, Nat.zero_add]
  rw [← List.singleton_append, value_append, hhead]

/-- A number of so many digits is below that power of the base. -/
theorem value_lt {α : Type*} {digit : α → Nat} {base : Nat} {ds : List α}
    (h : ∀ c ∈ ds, digit c < base) : value digit base ds < base ^ ds.length := by
  induction ds with
  | nil => exact Nat.one_pos
  | cons c ds ih =>
      have hrest := ih fun d hd => h d (List.mem_cons_of_mem c hd)
      have hhead := h c List.mem_cons_self
      rw [value_cons, List.length_cons, Nat.pow_succ']
      calc digit c * base ^ ds.length + value digit base ds
          < digit c * base ^ ds.length + base ^ ds.length := Nat.add_lt_add_left hrest _
        _ = (digit c + 1) * base ^ ds.length := (Nat.succ_mul _ _).symm
        _ ≤ base * base ^ ds.length := Nat.mul_le_mul_right _ hhead

theorem value_map {α β : Type*} (digit : β → Nat) (base : Nat) (f : α → β) (ds : List α) :
    value digit base (ds.map f) = value (fun c => digit (f c)) base ds := by
  unfold value
  rw [List.foldl_map]

/-- A number is written with digits below the base. -/
theorem mem_toDigits {base : Nat} (hb : 1 < base) (n : Nat) :
    ∀ c ∈ Nat.toDigits base n, ∃ k < base, c = Nat.digitChar k := by
  induction n using Nat.strongRecOn with
  | ind n ih =>
      intro c hc
      rw [Nat.toDigits_eq_if hb] at hc
      split at hc
      · rename_i hlt
        exact ⟨n, hlt, List.mem_singleton.mp hc⟩
      · -- The last digit is the remainder, and the others are those of the quotient.
        rcases List.mem_append.mp hc with hinit | hlast
        · exact ih (n / base) (Nat.div_lt_self (by omega) hb) c hinit
        · exact ⟨n % base, Nat.mod_lt n (by omega), List.mem_singleton.mp hlast⟩

/-- A number that is not zero is written with a first digit that is not zero. -/
theorem toDigits_cons {base : Nat} (hb : 1 < base) (n : Nat) (hn : 0 < n) :
    ∃ k ds, Nat.toDigits base n = Nat.digitChar k :: ds ∧ 0 < k ∧ k < base := by
  induction n using Nat.strongRecOn with
  | ind n ih =>
      rw [Nat.toDigits_eq_if hb]
      split
      · rename_i hlt
        exact ⟨n, [], rfl, hn, hlt⟩
      · rename_i hge
        have hquot : 0 < n / base := Nat.div_pos (Nat.not_lt.mp hge) (by omega)
        rcases ih (n / base) (Nat.div_lt_self hn hb) hquot with ⟨k, ds, hds, hk⟩
        exact ⟨k, ds ++ [Nat.digitChar (n % base)], by rw [hds, List.cons_append], hk⟩

/-- A number that is written reads back. -/
theorem value_toDigits {base : Nat} (hb : 1 < base) {digit : Char → Nat}
    (hdigit : ∀ k < base, digit (Nat.digitChar k) = k) (n : Nat) :
    value digit base (Nat.toDigits base n) = n := by
  induction n using Nat.strongRecOn with
  | ind n ih =>
      rw [Nat.toDigits_eq_if hb]
      split
      · rename_i hlt
        unfold value
        rw [List.foldl_cons, List.foldl_nil, Nat.zero_mul, Nat.zero_add]
        exact hdigit n hlt
      · rw [value_concat, ih (n / base) (Nat.div_lt_self (by omega) hb),
          hdigit (n % base) (Nat.mod_lt n (by omega)), Nat.mul_comm]
        exact Nat.div_add_mod n base

end Positional
