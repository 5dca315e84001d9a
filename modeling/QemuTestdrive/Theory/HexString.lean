import QemuTestdrive.Lib.Grouping
import QemuTestdrive.Lib.Splice
import QemuTestdrive.Theory.Numerals

/-!
# Hexadecimal Numbers in Groups

`HEX_STRING` prints a number in hexadecimal and then inserts a separator after
every four digits, counted from the right. Its loop walks over the text it is
changing. It only changes what is to the right of its index, so the digits in
front are as they were printed, and the index tells how many of them are left:
it is four less than the length of the prefix and of the digits not yet grouped.

With that invariant the loop cuts the digits into groups, one turn for each
group but the first, and ends when one to four of them are left. `hexLoop` is the
loop with the index of the source, which may go below zero, and a number of turns
it may take.

## Main definitions

* `hexLoop`: The loop, for a number of turns.
* `UpperHex`: A digit as `%llX` prints it.
* `HexGrouped`: A text is a number in groups of four digits.

## Theorems

* `hexLoop_ends`: The loop ends.
* `hexGroup_cut`: The loop cuts the digits into groups.
* `hexDigits_numeral`: The digits denote the number.
* `hexDigits_head`: There is no leading zero.
* `hexString_text`: What `HEX_STRING` returns.
* `hexString_grouped`: The same, and that it does return.
-/

namespace QemuTestdrive

open Grouping

/-- The insertion loop of `HEX_STRING`, entered with the index `i`, if it ends in
    the given number of turns. -/
def hexLoop : Nat → Int → List Char → Option (List Char)
  | 0, _, _ => none
  | fuel + 1, i, s => if 2 < i then hexLoop fuel (i - 4) (insertAt i.toNat ['_'] s) else some s

/-- A digit as `%llX` prints it. -/
def UpperHex (c : Char) : Prop :=
  c ∈ ['0', '1', '2', '3', '4', '5', '6', '7', '8', '9', 'A', 'B', 'C', 'D', 'E', 'F']

/-- The text `s` is the prefix and then the number `v`, in groups of four upper-case
    digits with a separator between them, of which the first may be shorter. Without
    the separators it is read as `v`. -/
structure HexGrouped (v : UInt64) (s : String) : Prop where
  groups : ∃ ds g gs, s.toList = '0' :: 'x' :: join '_' g gs ∧ Cut 4 ds g gs ∧
    (∀ c ∈ ds, UpperHex c) ∧ (ds.head? = some '0' → v = 0)
  value : stoull 16 (s.toList.filter fun c => c ≠ '_') = .ok v

/-- The loop ends, and `hexGroup` is what it returns. -/
theorem hexLoop_ends (fuel : Nat) : ∀ (i : Int) (s : List Char), i.toNat < fuel →
    hexLoop fuel i s = some (hexGroup i.toNat s) := by
  induction fuel with
  | zero => exact fun i s hlt => absurd hlt (Nat.not_lt_zero _)
  | succ fuel ih =>
      intro i s hlt
      rw [hexLoop, hexGroup]
      by_cases hi : 2 < i
      · have hnext : (i - 4).toNat = i.toNat - 4 := by omega
        rw [if_pos hi, if_pos (by omega), ih (i - 4) _ (by omega), hnext]
      · rw [if_neg hi, if_neg (by omega)]

theorem insertAt_eq_splice (i : Nat) (t s : List Char) : insertAt i t s = Splice.splice i 0 t s :=
  rfl

/-- The loop, entered with digits `ds` not yet grouped between the prefix and what
    has been, cuts them into groups. -/
theorem hexGroup_cut (n : Nat) : ∀ ds tail : List Char, ds.length = n → ds ≠ [] →
    ∃ g gs, Cut 4 ds g gs ∧
      hexGroup (2 + ds.length - 4) ('0' :: 'x' :: ds ++ tail) =
        '0' :: 'x' :: join '_' g gs ++ tail := by
  induction n using Nat.strongRecOn with
  | ind n ih =>
      intro ds tail hn hne
      rw [hexGroup]
      split
      · rename_i hlong
        -- The turn puts a separator in front of the last four of the digits.
        obtain ⟨front, last, rfl, hlast⟩ : ∃ front last, ds = front ++ last ∧ last.length = 4 := by
          refine ⟨ds.take (ds.length - 4), ds.drop (ds.length - 4),
            (List.take_append_drop _ _).symm, ?_⟩
          rw [List.length_drop]
          omega
        rw [List.length_append, hlast] at hn hlong ⊢
        have hfront : front ≠ [] := by
          rintro rfl
          rw [List.length_nil] at hlong
          omega
        have hindex : ('0' :: 'x' :: front).length = 2 + (front.length + 4) - 4 := by
          rw [List.length_cons, List.length_cons]
          omega
        have hturn : insertAt (2 + (front.length + 4) - 4) ['_']
            ('0' :: 'x' :: (front ++ last) ++ tail) =
              '0' :: 'x' :: front ++ ('_' :: (last ++ tail)) := by
          have hborder : Splice.splice (2 + (front.length + 4) - 4) 0 ['_']
              ('0' :: 'x' :: front ++ (last ++ tail)) = '0' :: 'x' :: front ++ ['_'] ++
                (last ++ tail) := Splice.splice_append ['_'] hindex
          simp only [List.cons_append, List.append_assoc, List.nil_append] at hborder ⊢
          rw [insertAt_eq_splice, hborder]
        rcases ih front.length (by omega) front ('_' :: (last ++ tail)) rfl hfront with
          ⟨g, gs, hcut, hrest⟩
        refine ⟨g, gs ++ [last], hcut.concat hlast, ?_⟩
        have hnext : 2 + (front.length + 4) - 4 - 4 = 2 + front.length - 4 := by omega
        rw [hturn, hnext, hrest, join_concat]
        simp only [List.cons_append, List.append_assoc]
      · rename_i hshort
        exact ⟨ds, [], Cut.single hne (by omega), by rw [join, List.flatMap_nil, List.append_nil]⟩

/-- The characters numbers are written with, in upper case. -/
theorem upper_digitChar {k : Nat} (hk : k < 16) :
    UpperHex (Nat.digitChar k).toUpper ∧ digitVal 16 (Nat.digitChar k).toUpper = some k := by
  have hall : ∀ k < 16, UpperHex (Nat.digitChar k).toUpper ∧
      digitVal 16 (Nat.digitChar k).toUpper = some k := by
    unfold UpperHex
    decide
  exact hall k hk

theorem mem_hexDigits {val : UInt64} {c : Char} (hc : c ∈ hexDigits val) :
    ∃ k < 16, c = (Nat.digitChar k).toUpper := by
  rcases List.mem_map.mp hc with ⟨d, hd, rfl⟩
  rcases Positional.mem_toDigits (by omega) val.toNat d hd with ⟨k, hk, rfl⟩
  exact ⟨k, hk, rfl⟩

/-- The digits `%llX` prints denote the number. -/
theorem hexDigits_numeral (val : UInt64) : Numeral 16 (hexDigits val) val.toNat := by
  refine ⟨fun h => Nat.toDigits_ne_nil (List.map_eq_nil_iff.mp h), fun c hc => ?_, ?_⟩
  · rcases mem_hexDigits hc with ⟨k, hk, rfl⟩
    rw [(upper_digitChar hk).2]
    rfl
  · -- The digits are printed in upper case, which leaves their values.
    rw [digitsVal_eq, hexDigits, Positional.value_map]
    refine Positional.value_toDigits (by omega) (fun k hk => ?_) val.toNat
    rw [(upper_digitChar hk).2]
    rfl

/-- Only zero is printed with a zero in front. -/
theorem hexDigits_head {val : UInt64} (h : (hexDigits val).head? = some '0') : val = 0 := by
  by_contra hne
  have hpos : 0 < val.toNat := by
    refine Nat.pos_of_ne_zero fun hzero => hne ?_
    exact UInt64.toNat_inj.mp hzero
  rcases Positional.toDigits_cons (show 1 < 16 by omega) val.toNat hpos with
    ⟨k, ds, hds, hk, hlt⟩
  rw [hexDigits, hds, List.map_cons, List.head?_cons, Option.some.injEq] at h
  -- A digit that is not zero does not count zero.
  have hval := (upper_digitChar hlt).2
  have hzero : digitVal 16 '0' = some 0 := by decide
  rw [h, hzero, Option.some.injEq] at hval
  omega

/-- `HEX_STRING` groups the digits of a number, which reads back. -/
theorem hexString_text (v : UInt64) : HexGrouped v (hexString v) := by
  have hnum := hexDigits_numeral v
  have hupper : ∀ c ∈ hexDigits v, UpperHex c := by
    intro c hc
    rcases mem_hexDigits hc with ⟨k, hk, rfl⟩
    exact (upper_digitChar hk).1
  have hsep : '_' ∉ hexDigits v := by
    intro hmem
    have hdigit := hupper '_' hmem
    unfold UpperHex at hdigit
    exact absurd hdigit (by decide)
  rcases hexGroup_cut _ (hexDigits v) [] rfl hnum.nonempty with ⟨g, gs, hcut, hloop⟩
  have htext : (hexString v).toList = '0' :: 'x' :: join '_' g gs := by
    have hlen : (['0', 'x'] ++ hexDigits v).length = 2 + (hexDigits v).length := by
      rw [List.length_append]
      rfl
    rw [List.append_nil, List.append_nil] at hloop
    rw [hexString, String.toList_ofList, hlen]
    exact hloop
  refine ⟨⟨hexDigits v, g, gs, htext, hcut, hupper, hexDigits_head⟩, ?_⟩
  -- The separators are in none of the digits, nor in the prefix.
  have hclean : (hexString v).toList.filter (fun c => c ≠ '_') = '0' :: 'x' :: hexDigits v := by
    rw [htext, ← hcut.filter_join hsep]
    rfl
  rw [hclean, stoull_hex hnum v.toNat_lt, UInt64.ofNat_toNat]

/-- `HEX_STRING` renders every number in groups, and its loop ends on a text of any
    length. -/
theorem hexString_grouped :
    (∀ v : UInt64, HexGrouped v (hexString v)) ∧
      ∀ s : List Char, hexLoop (s.length + 1) (s.length - 4) s =
        some (hexGroup (s.length - 4) s) := by
  refine ⟨hexString_text, fun s => ?_⟩
  have hindex : ((s.length : Int) - 4).toNat = s.length - 4 := by omega
  rw [hexLoop_ends _ _ s (by omega), hindex]

end QemuTestdrive
