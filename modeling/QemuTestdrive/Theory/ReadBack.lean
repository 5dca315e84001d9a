import QemuTestdrive.Theory.HexString

/-!
# Reading Printed Numbers Back

What becomes of a number that `HEX_STRING` has printed and that is given back to the
program. The configuration reads it in base sixteen, and stops at the first
separator, which is no digit. What it has read by then is the first group, and the
groups are those of four digits from the right, so it is the leading half-word of
the number. A script's string is read in base ten, where the prefix ends the number
after its zero.

The argument takes from the printed text only that it is in groups
(`HexGrouped.read`), so it does not depend on how `HEX_STRING` makes them.

## Main definitions

* `LeadingHalfword`: The first of the half-words of a number that is not zero.
* `PrintedRead`: How a printed number is read.

## Theorems

* `digitVal_upperHex`: What the digits count.
* `HexGrouped.read`: A text in groups is read as its first group.
* `LeadingHalfword.eq_iff`: When that is the whole number.
* `HexGrouped.printedRead`: How a text in groups is read.
* `hexString_read`: How a printed number is read, and when it comes back.
-/

namespace QemuTestdrive

open Grouping

/-- `w` is the part of `v` in front of a number of half-words. It is one half-word, and
    is zero only if `v` is. -/
structure LeadingHalfword (v w : UInt64) : Prop where
  front : ∃ k, w.toNat = v.toNat / 2 ^ (16 * k)
  small : w.toNat < 2 ^ 16
  nonzero : w = 0 → v = 0

/-- The text `s` is read as the leading half-word of `v` by the configuration, and as
    zero by a script. -/
structure PrintedRead (F : Framework) (v uDefault : UInt64) (s : String) : Prop where
  configuration : ∃ w, getConfigurationValue s uDefault = .ok w ∧ LeadingHalfword v w
  script : LuaInt64.GET F (.string s) = ([], .ok 0)

/-- A digit counts less than sixteen, and only the zero counts nothing. -/
theorem digitVal_upperHex {c : Char} (hc : UpperHex c) :
    ∃ k < 16, digitVal 16 c = some k ∧ (k = 0 → c = '0') := by
  have hall : ['0', '1', '2', '3', '4', '5', '6', '7', '8', '9', 'A', 'B', 'C', 'D', 'E', 'F'].all
      (fun c => (digitVal 16 c).elim false fun k => k < 16 ∧ (k = 0 → c = '0')) = true := by decide
  have h := List.all_eq_true.mp hall c hc
  cases hval : digitVal 16 c with
  | none =>
      rw [hval] at h
      exact absurd h Bool.false_ne_true
  | some k =>
      rw [hval, Option.elim_some, decide_eq_true_iff] at h
      exact ⟨k, h.1, rfl, h.2⟩

theorem upperHex_numeral {ds : List Char} (hne : ds ≠ []) (h : ∀ c ∈ ds, UpperHex c) :
    Numeral 16 ds (digitsVal 16 ds) := by
  refine ⟨hne, fun c hc => ?_, rfl⟩
  rcases digitVal_upperHex (h c hc) with ⟨k, _, hk, _⟩
  rw [hk]
  rfl

theorem digitsVal_upperHex_lt {ds : List Char} (h : ∀ c ∈ ds, UpperHex c) :
    digitsVal 16 ds < 16 ^ ds.length := by
  rw [digitsVal_eq]
  refine Positional.value_lt fun c hc => ?_
  rcases digitVal_upperHex (h c hc) with ⟨k, hlt, hk, _⟩
  rw [hk]
  exact hlt

/-- The first group denotes what the other groups leave of the number. -/
theorem digitsVal_front {ds g : List Char} {gs : List (List Char)} (hcut : Cut 4 ds g gs)
    (h : ∀ c ∈ ds, UpperHex c) : digitsVal 16 g = digitsVal 16 ds / 2 ^ (16 * gs.length) := by
  have hrest : digitsVal 16 gs.flatten < 2 ^ (16 * gs.length) := by
    have hupper : ∀ c ∈ gs.flatten, UpperHex c := fun c hc =>
      h c (by rw [← hcut.joined]; exact List.mem_append_right g hc)
    have hlt := digitsVal_upperHex_lt hupper
    -- Four digits are sixteen bits.
    rw [hcut.length_rest, show 16 = 2 ^ 4 from rfl, ← Nat.pow_mul] at hlt
    rw [show 16 * gs.length = 4 * (4 * gs.length) by omega]
    exact hlt
  have hplaces : 16 ^ gs.flatten.length = 2 ^ (16 * gs.length) := by
    rw [hcut.length_rest, show (16 : Nat) ^ (4 * gs.length) = (2 ^ 4) ^ (4 * gs.length) from rfl,
      ← Nat.pow_mul, show 4 * (4 * gs.length) = 16 * gs.length by omega]
  have hsum : digitsVal 16 ds =
      digitsVal 16 g * 2 ^ (16 * gs.length) + digitsVal 16 gs.flatten := by
    rw [← hplaces, ← hcut.joined, digitsVal_eq, Positional.value_append]
    rfl
  rw [hsum, Nat.mul_comm, Nat.mul_add_div (Nat.two_pow_pos _), Nat.div_eq_of_lt hrest,
    Nat.add_zero]

/-- Deleting the separators leaves the prefix and the digits. -/
theorem join_clean {ds g : List Char} {gs : List (List Char)} (hcut : Cut 4 ds g gs)
    (h : ∀ c ∈ ds, UpperHex c) :
    ('0' :: 'x' :: join '_' g gs).filter (fun c => c ≠ '_') = '0' :: 'x' :: ds := by
  have hsep : '_' ∉ ds := fun hc => by
    have hdigit := h '_' hc
    unfold UpperHex at hdigit
    exact absurd hdigit (by decide)
  rw [← hcut.filter_join hsep]
  rfl

/-- A first digit that counts something makes the number positive. -/
theorem digitsVal_pos {ds : List Char} (hne : ds ≠ []) (h : ∀ c ∈ ds, UpperHex c)
    (hhead : ds.head? ≠ some '0') : 0 < digitsVal 16 ds := by
  rcases ds with _ | ⟨c, ds⟩
  · exact absurd rfl hne
  rcases digitVal_upperHex (h c List.mem_cons_self) with ⟨k, _, hk, hzero⟩
  have hpos : 0 < k := Nat.pos_of_ne_zero fun hk0 => hhead (congrArg some (hzero hk0))
  rw [digitsVal_eq, Positional.value_cons, hk, Option.getD_some]
  exact Nat.add_pos_left (Nat.mul_pos hpos (Nat.pow_pos (by omega))) _

/-- A number in groups of four digits is read up to the first separator. -/
theorem HexGrouped.read {v : UInt64} {s : String} (h : HexGrouped v s) :
    ∃ w, stoull 16 s.toList = .ok w ∧ LeadingHalfword v w := by
  rcases h.groups with ⟨ds, g, gs, htext, hcut, hupper, hhead⟩
  have hmem : ∀ c ∈ g, UpperHex c := fun c hc =>
    hupper c (by rw [← hcut.joined]; exact List.mem_append_left _ hc)
  have hne : ds ≠ [] := by
    rw [← hcut.joined]
    exact List.append_ne_nil_of_left_ne_nil hcut.nonempty _
  -- Without the separators the text is the digits, so they denote the number.
  have hvalue : digitsVal 16 ds = v.toNat := by
    have hread := h.value
    rw [htext, join_clean hcut hupper, ← List.append_nil ds,
      stoull_hex_append (upperHex_numeral hne hupper) no_digit_nil] at hread
    split at hread
    · exact absurd hread (by simp only [reduceCtorEq, not_false_eq_true])
    · rename_i hlt
      rw [← Except.ok.inj hread, UInt64.toNat_ofNat_of_lt' (Nat.not_le.mp hlt)]
  have hfront := digitsVal_front hcut hupper
  rw [hvalue] at hfront
  have hsmall : digitsVal 16 g < 2 ^ 16 := by
    calc digitsVal 16 g
        < 16 ^ g.length := digitsVal_upperHex_lt hmem
      _ ≤ 16 ^ 4 := Nat.pow_le_pow_right (by omega) hcut.short
      _ = 2 ^ 16 := by rfl
  have hword : (UInt64.ofNat (digitsVal 16 g)).toNat = digitsVal 16 g :=
    UInt64.toNat_ofNat_of_lt' (Nat.lt_trans hsmall (by decide))
  have hstop : ∀ c ∈ (gs.flatMap fun h => '_' :: h).head?, ¬ (digitVal 16 c).isSome := by
    intro c hc
    rcases gs with _ | ⟨e, gs⟩
    · exact absurd hc (Option.not_mem_none c)
    · rw [List.flatMap_cons, List.cons_append, List.head?_cons, Option.mem_def,
        Option.some.injEq] at hc
      rw [← hc]
      decide
  refine ⟨UInt64.ofNat (digitsVal 16 g), ?_, ⟨gs.length, ?_⟩, ?_, fun hzero => ?_⟩
  · rw [htext, join, stoull_hex_append (upperHex_numeral hcut.nonempty hmem) hstop,
      if_neg (Nat.not_le.mpr (Nat.lt_trans hsmall (by decide)))]
  · rw [hword, hfront]
  · rw [hword]
    exact hsmall
  · -- Only zero is printed with a zero in front.
    by_contra hv
    have hpos := digitsVal_pos hcut.nonempty hmem fun hfirst => hv (hhead (by
      rw [← hcut.joined, List.head?_append, hfirst]
      rfl))
    rw [← hword, hzero] at hpos
    exact Nat.lt_irrefl 0 hpos

/-- The leading half-word is the whole number exactly when there is no other. -/
theorem LeadingHalfword.eq_iff {v w : UInt64} (h : LeadingHalfword v w) :
    w = v ↔ v.toNat < 2 ^ 16 := by
  constructor
  · rintro rfl
    exact h.small
  · intro hlt
    rcases h.front with ⟨k, hk⟩
    rcases Nat.eq_zero_or_pos k with rfl | hpos
    · rw [Nat.mul_zero, Nat.pow_zero, Nat.div_one] at hk
      exact UInt64.toNat_inj.mp hk
    · -- Nothing is left in front of a half-word.
      have hge : 2 ^ 16 ≤ 2 ^ (16 * k) := Nat.pow_le_pow_right (by omega) (by omega)
      rw [Nat.div_eq_of_lt (Nat.lt_of_lt_of_le hlt hge)] at hk
      have hzero : w = 0 := UInt64.toNat_inj.mp hk
      rw [hzero, h.nonzero hzero]

/-- A text in groups is delivered whole. -/
theorem HexGrouped.cStr_whole {v : UInt64} {s : String} (h : HexGrouped v s) :
    cStr s = s.toList := by
  rcases h.groups with ⟨ds, g, gs, htext, hcut, hupper, _⟩
  refine cStr_eq fun c hc => ?_
  by_cases hsep : c = '_'
  · rw [hsep]
    decide
  · have hmem : c ∈ '0' :: 'x' :: ds := by
      rw [← join_clean hcut hupper, ← htext]
      exact List.mem_filter.mpr ⟨hc, decide_eq_true hsep⟩
    rcases List.mem_cons.mp hmem with rfl | hmem
    · decide
    rcases List.mem_cons.mp hmem with rfl | hmem
    · decide
    · rcases digitVal_upperHex (hupper c hmem) with ⟨k, _, hk, _⟩
      exact digit_ge (by rw [hk]; rfl)

/-- A text in groups is read as the leading half-word by the configuration, and by a
    script as zero. -/
theorem HexGrouped.printedRead {v : UInt64} {s : String} (h : HexGrouped v s) (F : Framework)
    (uDefault : UInt64) : PrintedRead F v uDefault s := by
  rcases h.read with ⟨w, hw, hlead⟩
  rcases h.groups with ⟨ds, g, gs, htext, _⟩
  have hne : s ≠ "" := fun hempty => by
    rw [hempty] at htext
    exact absurd htext.symm (List.cons_ne_nil _ _)
  have hhead : ['0', 'x'].isPrefixOf s.toList = true := by
    rw [List.isPrefixOf_iff_prefix, htext]
    exact ⟨join '_' g gs, rfl⟩
  refine ⟨⟨w, ?_, hlead⟩, ?_⟩
  · unfold getConfigurationValue
    rw [if_pos hne, if_pos hhead, h.cStr_whole, hw]
  · -- A script's string is read in base ten.
    have hget : LuaInt64.GET F (.string s) = ([], stoull 10 (cStr s)) := rfl
    rw [hget, h.cStr_whole, htext, stoull_hex_ten]

/-- A number that `HEX_STRING` has printed is read as its leading half-word by the
    configuration and as zero by a script. The configuration gives it back exactly when
    it is a half-word. -/
theorem hexString_read (F : Framework) (v uDefault : UInt64) :
    PrintedRead F v uDefault (hexString v) ∧
      (getConfigurationValue (hexString v) uDefault = .ok v ↔ v.toNat < 2 ^ 16) := by
  have hread := (hexString_text v).printedRead F uDefault
  refine ⟨hread, ?_⟩
  rcases hread.configuration with ⟨w, hw, hlead⟩
  rw [hw, Except.ok.injEq]
  exact hlead.eq_iff

end QemuTestdrive
