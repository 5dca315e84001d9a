import Mathlib.Tactic.Common

/-!
# Splicing Lists

Replacing a stretch of a list by another list, and what becomes of a position in
it. Inserting is splicing without taking anything out, and erasing is splicing
nothing in.

A position before the stretch keeps what is in front of it, and a position after
it keeps what follows, provided it moves by the change in length.

## Main definitions

* `splice`: A list with a stretch of it replaced.

## Theorems

* `splice_append`: Splicing in at the border of two lists.
* `length_splice`: The length of the result.
* `take_splice`: What is in front of a position before the stretch.
* `drop_splice`: What follows a position after it.
-/

namespace Splice

variable {α : Type*}

/-- The list `l` with its `n` elements from position `i` on replaced by `s`. -/
def splice (i n : Nat) (s l : List α) : List α :=
  l.take i ++ s ++ l.drop (i + n)

theorem splice_append (s : List α) {i : Nat} {l l' : List α} (h : l.length = i) :
    splice i 0 s (l ++ l') = l ++ s ++ l' := by
  subst h
  rw [splice, List.take_left, Nat.add_zero, List.drop_left]

theorem length_splice {i : Nat} (n : Nat) (s : List α) {l : List α} (hi : i ≤ l.length) :
    (splice i n s l).length = i + s.length + (l.length - (i + n)) := by
  rw [splice, List.length_append, List.length_append, List.length_take, List.length_drop,
    Nat.min_eq_left hi]

/-- What is in front of a position before the stretch stays. -/
theorem take_splice {i c : Nat} (n : Nat) (s : List α) {l : List α} (hc : c ≤ i)
    (hi : i ≤ l.length) : (splice i n s l).take c = l.take c := by
  have hlen : c ≤ (l.take i).length := by
    rw [List.length_take]
    omega
  rw [splice, List.append_assoc, List.take_append_of_le_length hlen, List.take_take,
    Nat.min_eq_left hc]

/-- What follows a position after the stretch follows it after it has moved. -/
theorem drop_splice {i n c : Nat} (s : List α) {l : List α} (hc : i + n ≤ c)
    (hi : i ≤ l.length) : (splice i n s l).drop (c - n + s.length) = l.drop c := by
  have hlen : (l.take i ++ s).length = i + s.length := by
    rw [List.length_append, List.length_take, Nat.min_eq_left hi]
  -- The position lies past the part in front of the rest.
  have hsplit : c - n + s.length = (l.take i ++ s).length + (c - (i + n)) := by omega
  rw [splice, hsplit, List.drop_length_add_append, List.drop_drop]
  congr 1
  omega

end Splice
