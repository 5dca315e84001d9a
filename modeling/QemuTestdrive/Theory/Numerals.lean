import Mathlib.Data.List.TakeWhile
import QemuTestdrive.Core.Configuration
import QemuTestdrive.Lib.Positional

/-!
# Reading Numerals

What `stoull` makes of a text that is a numeral: a list of digits and nothing
else, or the prefix `0x` and hexadecimal digits. The blanks and the sign it
would skip are no digits, so a numeral begins with its first digit, and it ends
with its last. In base ten the `x` of the prefix is no digit either, and what is
read of a hexadecimal numeral is the zero in front of it.

## Main definitions

* `Numeral`: A list of digits and the number they denote.

## Theorems

* `numeral_toDigits`: A number has a numeral in every base up to sixteen.
* `stoull_eq`: A numeral is read as its number, if it fits.
* `stoull_hex_append`: A prefixed numeral is read up to its last digit.
* `stoull_hex`, `stoull_hex_ten`: A prefixed numeral, read in either base.
* `cStr_decimal`, `cStr_hex`: A numeral is delivered whole.
* `getConfigurationValue_decimal`, `getConfigurationValue_hex`: A numeral in the
  configuration.
-/

namespace QemuTestdrive

/-- The digits `ds` denote the number `n`. -/
structure Numeral (base : Nat) (ds : List Char) (n : Nat) : Prop where
  nonempty : ds ≠ []
  digits : ∀ c ∈ ds, (digitVal base c).isSome
  value : digitsVal base ds = n

theorem digitsVal_eq (base : Nat) (ds : List Char) :
    digitsVal base ds = Positional.value (fun c => (digitVal base c).getD 0) base ds := rfl

/-- A value that passes for base sixteen and is small enough passes for a smaller
    base. -/
theorem digit_bound {v k base : Nat} (hv : (if v < 16 then some v else none) = some k)
    (hk : k < base) : (if v < base then some v else none) = some k := by
  split at hv
  · rw [Option.some.inj hv, if_pos hk]
  · exact absurd hv (Option.some_ne_none k).symm

/-- A digit of base sixteen that is small enough is a digit of a smaller base. -/
theorem digitVal_of_lt {base k : Nat} {c : Char} (hc : digitVal 16 c = some k) (hk : k < base) :
    digitVal base c = some k := by
  unfold digitVal at hc ⊢
  simp only at hc ⊢
  by_cases hdec : '0' ≤ c ∧ c ≤ '9'
  · simp only [if_pos hdec] at hc ⊢
    exact digit_bound hc hk
  by_cases hlow : 'a' ≤ c ∧ c ≤ 'z'
  · simp only [if_neg hdec, if_pos hlow] at hc ⊢
    exact digit_bound hc hk
  by_cases hup : 'A' ≤ c ∧ c ≤ 'Z'
  · simp only [if_neg hdec, if_neg hlow, if_pos hup] at hc ⊢
    exact digit_bound hc hk
  · -- Any other character is no digit.
    simp only [if_neg hdec, if_neg hlow, if_neg hup, if_neg (Nat.lt_irrefl 16)] at hc
    exact absurd hc (Option.some_ne_none k).symm

/-- The characters numbers are written with count what they should. -/
theorem digitVal_digitChar {base k : Nat} (hbase : base ≤ 16) (hk : k < base) :
    digitVal base (Nat.digitChar k) = some k := by
  -- All bases use the first of the sixteen digits.
  have hsixteen : ∀ k < 16, digitVal 16 (Nat.digitChar k) = some k := by decide
  exact digitVal_of_lt (hsixteen k (by omega)) hk

/-- Every number is denoted by the digits it is written with. -/
theorem numeral_toDigits {base : Nat} (hb : 1 < base) (hbase : base ≤ 16) (n : Nat) :
    Numeral base (Nat.toDigits base n) n := by
  refine ⟨Nat.toDigits_ne_nil, fun c hc => ?_, ?_⟩
  · rcases Positional.mem_toDigits hb n c hc with ⟨k, hk, rfl⟩
    rw [digitVal_digitChar hbase hk]
    rfl
  · rw [digitsVal_eq]
    refine Positional.value_toDigits hb (fun k hk => ?_) n
    rw [digitVal_digitChar hbase hk]
    rfl

/-- A digit is one of the ten digits or a letter, none of which comes before the
    zero. -/
theorem digit_ge {base : Nat} {c : Char} (hc : (digitVal base c).isSome) : 48 ≤ c.toNat := by
  have hle : ∀ d : Char, d ≤ c → d.toNat ≤ c.toNat := fun d h => UInt32.le_iff_toNat_le.mp h
  unfold digitVal at hc
  simp only at hc
  by_cases hdec : '0' ≤ c ∧ c ≤ '9'
  · exact hle '0' hdec.1
  by_cases hlow : 'a' ≤ c ∧ c ≤ 'z'
  · exact Nat.le_trans (by decide) (hle 'a' hlow.1)
  by_cases hup : 'A' ≤ c ∧ c ≤ 'Z'
  · exact Nat.le_trans (by decide) (hle 'A' hup.1)
  · simp only [if_neg hdec, if_neg hlow, if_neg hup, if_neg (Nat.lt_irrefl base)] at hc
    exact absurd hc Bool.false_ne_true

/-- What begins with a digit is left alone by the parts of `stoull` that skip
    blanks and a sign. -/
theorem stoull_start {c : Char} (hc : 48 ≤ c.toNat) (cs : List Char) :
    (c :: cs).dropWhile isSpace = c :: cs ∧ splitSign (c :: cs) = (false, c :: cs) := by
  have hne : ∀ d : Char, d.toNat < 48 → c ≠ d := fun d hd heq => by
    rw [heq] at hc
    omega
  constructor
  · -- Blanks and signs all come before the zero.
    refine List.dropWhile_cons_of_neg ?_
    unfold isSpace
    rw [decide_eq_false (hne ' ' (by decide)), Bool.false_or, Bool.and_eq_true,
      decide_eq_true_iff, decide_eq_true_iff]
    omega
  · unfold splitSign
    split
    · rename_i heq
      exact absurd (List.cons.inj heq).1 (hne '-' (by decide))
    · rename_i heq
      exact absurd (List.cons.inj heq).1 (hne '+' (by decide))
    · rfl

/-- The part of `stoull` after the sign and the prefix, on a numeral. -/
theorem stoull_digits {base n : Nat} {ds : List Char} (h : Numeral base ds n) :
    ds.takeWhile (fun c => (digitVal base c).isSome) = ds :=
  List.takeWhile_eq_self_iff.mpr h.digits

/-- A numeral does not begin with the hexadecimal prefix, whose `x` is no digit. -/
theorem dropHexPrefix_numeral {n : Nat} {ds : List Char} (h : Numeral 16 ds n) :
    dropHexPrefix ds = ds := by
  unfold dropHexPrefix
  split
  · have hx := h.digits 'x' (List.mem_cons_of_mem _ List.mem_cons_self)
    exact absurd hx (by decide)
  · have hx := h.digits 'X' (List.mem_cons_of_mem _ List.mem_cons_self)
    exact absurd hx (by decide)
  · rfl

/-- A numeral is read as its number, if that fits in 64 bits. -/
theorem stoull_eq {base n : Nat} {ds : List Char} (h : Numeral base ds n) :
    stoull base ds = if 2 ^ 64 ≤ n then .error .outOfRange else .ok (UInt64.ofNat n) := by
  have hhead : (if base = 16 then dropHexPrefix ds else ds) = ds := by
    split
    · rename_i hbase
      subst hbase
      exact dropHexPrefix_numeral h
    · rfl
  rcases hds : ds with _ | ⟨c, cs⟩
  · exact absurd hds h.nonempty
  · have hc := digit_ge (h.digits c (by rw [hds]; exact List.mem_cons_self))
    rcases stoull_start hc cs with ⟨hblank, hsign⟩
    unfold stoull
    rw [hblank, hsign, ← hds]
    simp only [hhead, stoull_digits h, if_neg h.nonempty, h.value]
    rfl

theorem stoull_numeral {base n : Nat} {ds : List Char} (h : Numeral base ds n) (hn : n < 2 ^ 64) :
    stoull base ds = .ok (UInt64.ofNat n) := by
  rw [stoull_eq h, if_neg (Nat.not_le.mpr hn)]

/-- A prefixed numeral is read as its number in base sixteen, up to the first character
    that is no digit. -/
theorem stoull_hex_append {n : Nat} {ds rest : List Char} (h : Numeral 16 ds n)
    (hrest : ∀ c ∈ rest.head?, ¬ (digitVal 16 c).isSome) :
    stoull 16 ('0' :: 'x' :: (ds ++ rest)) =
      if 2 ^ 64 ≤ n then .error .outOfRange else .ok (UInt64.ofNat n) := by
  rcases stoull_start (c := '0') (by decide) ('x' :: (ds ++ rest)) with ⟨hblank, hsign⟩
  have hhead : dropHexPrefix ('0' :: 'x' :: (ds ++ rest)) = ds ++ rest := by
    rcases hds : ds with _ | ⟨c, cs⟩
    · exact absurd hds h.nonempty
    · exact if_pos (h.digits c (by rw [hds]; exact List.mem_cons_self))
  have hdigits : (ds ++ rest).takeWhile (fun c => (digitVal 16 c).isSome) = ds := by
    have hstop : rest.takeWhile (fun c => (digitVal 16 c).isSome) = [] := by
      cases rest with
      | nil => rfl
      | cons c cs => exact List.takeWhile_cons_of_neg (hrest c rfl)
    rw [List.takeWhile_append_of_pos h.digits, hstop, List.append_nil]
  unfold stoull
  rw [hblank, hsign]
  simp only [if_true, hhead, hdigits, if_neg h.nonempty, h.value]
  rfl

theorem no_digit_nil : ∀ c ∈ ([] : List Char).head?, ¬ (digitVal 16 c).isSome :=
  fun c hc => absurd hc (Option.not_mem_none c)

theorem stoull_hex {n : Nat} {ds : List Char} (h : Numeral 16 ds n) (hn : n < 2 ^ 64) :
    stoull 16 ('0' :: 'x' :: ds) = .ok (UInt64.ofNat n) := by
  rw [← List.append_nil ds, stoull_hex_append h no_digit_nil, if_neg (Nat.not_le.mpr hn)]

/-- In base ten, only its first zero is read. -/
theorem stoull_hex_ten (ds : List Char) : stoull 10 ('0' :: 'x' :: ds) = .ok 0 := rfl

/-- A string without NUL is delivered whole. -/
theorem cStr_eq {s : String} (h : ∀ c ∈ s.toList, 48 ≤ c.toNat) : cStr s = s.toList := by
  refine List.takeWhile_eq_self_iff.mpr fun c hc => ?_
  have hge := h c hc
  rw [decide_eq_true_iff]
  intro hnul
  rw [hnul] at hge
  exact absurd hge (by decide)

theorem cStr_decimal {n : Nat} {s : String} (h : Numeral 10 s.toList n) : cStr s = s.toList :=
  cStr_eq fun c hc => digit_ge (h.digits c hc)

theorem cStr_hex {n : Nat} {s : String} {ds : List Char} (hs : s.toList = '0' :: 'x' :: ds)
    (h : Numeral 16 ds n) : cStr s = '0' :: 'x' :: ds := by
  rw [← hs]
  refine cStr_eq fun c hc => ?_
  rw [hs] at hc
  rcases List.mem_cons.mp hc with rfl | hc
  · decide
  rcases List.mem_cons.mp hc with rfl | hc
  · decide
  · exact digit_ge (h.digits c hc)

/-- A string of decimal digits has no hexadecimal prefix. -/
theorem decimal_not_hex {n : Nat} {ds : List Char} (h : Numeral 10 ds n) :
    ¬ ['0', 'x'] <+: ds := by
  rintro ⟨t, rfl⟩
  exact absurd (h.digits 'x' (List.mem_cons_of_mem _ List.mem_cons_self)) (by decide)

/-- The configuration reads a decimal numeral in base ten. -/
theorem getConfigurationValue_decimal {n : Nat} {s : String} (hn : n < 2 ^ 64)
    (h : Numeral 10 s.toList n) (uDefault : UInt64) :
    getConfigurationValue s uDefault = .ok (UInt64.ofNat n) := by
  have hne : s ≠ "" := fun hs => h.nonempty (by rw [hs]; rfl)
  have hhead : ¬ ['0', 'x'].isPrefixOf s.toList = true := by
    rw [List.isPrefixOf_iff_prefix]
    exact decimal_not_hex h
  unfold getConfigurationValue
  rw [if_pos hne, if_neg hhead, cStr_decimal h]
  exact stoull_numeral h hn

/-- The configuration reads a prefixed numeral in base sixteen. -/
theorem getConfigurationValue_hex {n : Nat} {s : String} {ds : List Char} (hn : n < 2 ^ 64)
    (hs : s.toList = '0' :: 'x' :: ds) (h : Numeral 16 ds n) (uDefault : UInt64) :
    getConfigurationValue s uDefault = .ok (UInt64.ofNat n) := by
  have hne : s ≠ "" := fun hempty => by
    rw [hempty] at hs
    exact absurd hs.symm (List.cons_ne_nil _ _)
  have hhead : ['0', 'x'].isPrefixOf s.toList = true := by
    rw [List.isPrefixOf_iff_prefix, hs]
    exact ⟨ds, rfl⟩
  unfold getConfigurationValue
  rw [if_pos hne, if_pos hhead, cStr_hex hs h]
  exact stoull_hex h hn

end QemuTestdrive
