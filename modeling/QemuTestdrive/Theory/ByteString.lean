import Mathlib.Algebra.GroupWithZero.Nat
import QemuTestdrive.Theory.Numerals

/-!
# Sizes in Units

`BYTE_STRING` prints a size as counts of four units, from the largest to the
smallest, and leaves out the units that are not needed. Each of its blocks takes
as many of its unit as there are in what is left, so what is left afterwards is
less than the unit, and the next block finds less than 1024 of its own. The last
block, for the single bytes, is written on its own in the source, and does what
the others would do for a unit of one byte.

`Shown` holds between the blocks: the text is that of the components printed so
far, and they and the rest add up to the size. A text of that form reads back by
adding up its components, so two sizes never have the same text.

## Main definitions

* `SizeUnit`, `SizeCount`: The units, and a component of a text.
* `sizeText`: The text of a list of components.
* `SizeRendered`: The components stand for a size.
* `Shown`: The state of `BYTE_STRING` between two blocks.
* `readSize`: The size a text stands for.

## Theorems

* `sizeUnit_shown`: What a block does.
* `byteString_components`: The components of a text.
* `readSize_sizeText`: Their text reads back.
* `byteString_injective`: Two sizes have two texts.
* `sizeText_ends`: No blank leads or trails.
* `byteString_rendered`: What `BYTE_STRING` returns.
-/

namespace QemuTestdrive

/-- The units of `BYTE_STRING`. -/
inductive SizeUnit where
  | gb
  | mb
  | kb
  | byte
  deriving DecidableEq

namespace SizeUnit

/-- The unit as the constant the source divides by. -/
def word : SizeUnit → UInt64
  | gb => 1024 * 1024 * 1024
  | mb => 1024 * 1024
  | kb => 1024
  | byte => 1

def bytes (u : SizeUnit) : Nat := u.word.toNat

/-- The text after a count. -/
def suffix : SizeUnit → List Char
  | gb => ['G', 'B']
  | mb => ['M', 'B']
  | kb => ['K', 'B']
  | byte => [' ', 'B', 'y', 't', 'e']

end SizeUnit

/-- A component of the text of a size. -/
structure SizeCount where
  unit : SizeUnit
  count : Nat

def SizeCount.text (c : SizeCount) : List Char :=
  Nat.toDigits 10 c.count ++ c.unit.suffix

/-- The components with single blanks between them. -/
def sizeText (cs : List SizeCount) : List Char :=
  [' '].intercalate (cs.map SizeCount.text)

/-- The bytes the components add up to. -/
def sizeTotal (cs : List SizeCount) : Nat :=
  (cs.map fun c => c.count * c.unit.bytes).sum

/-- The components `cs` come from the largest unit to the smallest, none of them is
    zero and only the first unit may be there more than 1023 times, and they add up
    to `n`. -/
structure SizeRendered (n : Nat) (cs : List SizeCount) : Prop where
  order : cs.Pairwise fun c d => d.unit.bytes < c.unit.bytes
  nonzero : ∀ c ∈ cs, 0 < c.count
  below : ∀ c ∈ cs, c.unit ≠ .gb → c.count < 1024
  total : sizeTotal cs = n

/-- `BYTE_STRING` of `n` has printed the components `cs`, of units of `u` bytes and
    more, and less than `u` bytes are left. -/
structure Shown (n u : Nat) (t : SizeText) (cs : List SizeCount) : Prop where
  text : t.sSize = sizeText cs
  shown : t.bShown = !cs.isEmpty
  rest : t.val.toNat < u
  units : ∀ c ∈ cs, u ≤ c.unit.bytes
  rendered : SizeRendered (n - t.val.toNat) cs
  le : t.val.toNat ≤ n

section Render

variable {n u : Nat} {t : SizeText} {cs : List SizeCount}

theorem sizeText_concat (cs : List SizeCount) (c : SizeCount) :
    sizeText (cs ++ [c]) = sizeText cs ++ (if cs.isEmpty then [] else [' ']) ++ c.text := by
  unfold sizeText
  rw [List.map_append, List.map_singleton]
  induction cs with
  | nil =>
      rw [List.map_nil, List.nil_append, List.intercalate_singleton]
      rfl
  | cons d cs ih =>
      cases cs with
      | nil =>
          rw [List.map_singleton, List.singleton_append, List.intercalate_cons_cons,
            List.intercalate_singleton, List.intercalate_singleton]
          rfl
      | cons e cs =>
          simp only [List.map_cons, List.cons_append, List.intercalate_cons_cons] at ih ⊢
          rw [ih]
          simp only [List.isEmpty_cons, List.append_assoc]

theorem sizeTotal_concat (cs : List SizeCount) (c : SizeCount) :
    sizeTotal (cs ++ [c]) = sizeTotal cs + c.count * c.unit.bytes := by
  rw [sizeTotal, List.map_append, List.sum_append, List.map_singleton, List.sum_singleton]
  rfl

/-- What `%lld` prints for a number without the sign bit. -/
theorem lld_eq {val : UInt64} (h : val.toNat < 2 ^ 63) : lld val = Nat.toDigits 10 val.toNat := by
  have hint : val.toInt64.toInt = val.toNat := by
    have hcond : val.toInt64.toInt = _ := BitVec.toInt_eq_toNat_cond val.toBitVec
    rw [hcond, if_pos]
    · rfl
    · change 2 * val.toNat < 2 ^ 64
      omega
  rw [lld, hint, Int.toString_eq_repr]
  exact String.toList_ofList

/-- One more component at the end. -/
theorem SizeRendered.concat {m : Nat} (h : SizeRendered m cs) {c : SizeCount}
    (hunits : ∀ d ∈ cs, c.unit.bytes < d.unit.bytes) (hpos : 0 < c.count)
    (hbelow : c.unit ≠ .gb → c.count < 1024) :
    SizeRendered (m + c.count * c.unit.bytes) (cs ++ [c]) := by
  have hmem : ∀ d ∈ cs ++ [c], d ∈ cs ∨ d = c := by
    intro d hd
    rw [List.mem_append, List.mem_singleton] at hd
    exact hd
  refine ⟨?_, fun d hd => ?_, fun d hd hgb => ?_, ?_⟩
  · rw [List.pairwise_append]
    refine ⟨h.order, List.pairwise_singleton _ _, fun d hd e he => ?_⟩
    rw [List.mem_singleton.mp he]
    exact hunits d hd
  · rcases hmem d hd with hd | rfl
    · exact h.nonzero d hd
    · exact hpos
  · rcases hmem d hd with hd | rfl
    · exact h.below d hd hgb
    · exact hbelow hgb
  · rw [sizeTotal_concat, h.total]

/-- What a block leaves is the remainder, since the product does not wrap. -/
theorem rest_eq_mod (val unit : UInt64) : val - val / unit * unit = val % unit := by
  have hle : val.toNat / unit.toNat * unit.toNat ≤ val.toNat := Nat.div_mul_le_self _ _
  have hlt := val.toNat_lt
  have hprod : (val / unit * unit).toNat = val.toNat / unit.toNat * unit.toNat := by
    rw [UInt64.toNat_mul, UInt64.toNat_div]
    exact Nat.mod_eq_of_lt (by omega)
  apply UInt64.toNat_inj.mp
  rw [UInt64.toNat_sub_of_le, hprod, UInt64.toNat_mod, Nat.mod_eq_sub_div_mul]
  rw [UInt64.le_iff_toNat_le, hprod]
  exact hle

/-- Of every unit but the largest there are less than 1024. -/
theorem Shown.count_lt (h : Shown n u t cs) {unit : SizeUnit}
    (hratio : unit ≠ .gb → u = 1024 * unit.bytes) (hgb : unit ≠ .gb) :
    t.val.toNat / unit.bytes < 1024 := by
  refine Nat.div_lt_of_lt_mul ?_
  rw [Nat.mul_comm, ← hratio hgb]
  exact h.rest

/-- A count is printed as it is, since it does not reach the sign bit. -/
theorem Shown.lld_count (h : Shown n u t cs) {unit : SizeUnit}
    (hratio : unit ≠ .gb → u = 1024 * unit.bytes) :
    lld (t.val / unit.word) = Nat.toDigits 10 (t.val.toNat / unit.bytes) := by
  have hcount : (t.val / unit.word).toNat = t.val.toNat / unit.bytes := UInt64.toNat_div _ _
  have hsmall : t.val.toNat / unit.bytes < 2 ^ 63 := by
    by_cases hgb : unit = .gb
    · have hval := t.val.toNat_lt
      have hbytes : SizeUnit.gb.bytes = 2 ^ 30 := rfl
      rw [hgb, hbytes]
      omega
    · exact Nat.lt_trans (h.count_lt hratio hgb) (by omega)
  rw [lld_eq (hcount ▸ hsmall), hcount]

/-- The text with one more component, and a blank if it is not the first. -/
theorem Shown.text_concat (h : Shown n u t cs) (c : SizeCount) :
    t.sSize ++ (if t.bShown = true then [' '] else []) ++ c.text = sizeText (cs ++ [c]) := by
  rw [h.text, h.shown, sizeText_concat]
  cases cs with
  | nil => rfl
  | cons c cs => rfl

/-- A block prints the count of its unit, if there is one, and leaves less than the
    unit. -/
theorem sizeUnit_shown (h : Shown n u t cs) (unit : SizeUnit) (hu : unit.bytes < u)
    (hratio : unit ≠ .gb → u = 1024 * unit.bytes) :
    ∃ cs', Shown n unit.bytes (sizeUnit unit.word unit.suffix t) cs' := by
  have hpos : 0 < unit.bytes := by cases unit <;> decide
  unfold sizeUnit
  by_cases hle : unit.word ≤ t.val
  · rw [if_pos hle]
    have hrest : (t.val - t.val / unit.word * unit.word).toNat = t.val.toNat % unit.bytes := by
      rw [rest_eq_mod, UInt64.toNat_mod, SizeUnit.bytes]
    have hdivmod := Nat.div_add_mod' t.val.toNat unit.bytes
    -- The block is entered only for a unit that is there, so no component is zero.
    have hone : 0 < t.val.toNat / unit.bytes := Nat.div_pos (UInt64.le_iff_toNat_le.mp hle) hpos
    have hconcat := h.rendered.concat (c := ⟨unit, t.val.toNat / unit.bytes⟩)
      (fun d hd => Nat.lt_of_lt_of_le hu (h.units d hd)) hone (h.count_lt hratio)
    have hle' := h.le
    refine ⟨cs ++ [⟨unit, t.val.toNat / unit.bytes⟩], ?_, ?_, ?_, fun c hc => ?_, ?_, ?_⟩
    · rw [← h.text_concat, SizeCount.text, ← h.lld_count hratio, ← List.append_assoc]
    · cases cs <;> rfl
    · rw [hrest]
      exact Nat.mod_lt _ hpos
    · rcases List.mem_append.mp hc with hc | hc
      · exact Nat.le_trans (Nat.le_of_lt hu) (h.units c hc)
      · rw [List.mem_singleton.mp hc]
    · have htotal : n - t.val.toNat + t.val.toNat / unit.bytes * unit.bytes =
          n - t.val.toNat % unit.bytes := by omega
      rw [hrest, ← htotal]
      exact hconcat
    · rw [hrest]
      omega
  · rw [if_neg hle]
    have hlt : t.val.toNat < unit.bytes := by
      rw [UInt64.le_iff_toNat_le, Nat.not_le] at hle
      exact hle
    refine ⟨cs, h.text, h.shown, hlt, fun c hc => ?_, h.rendered, h.le⟩
    exact Nat.le_trans (Nat.le_of_lt hu) (h.units c hc)

end Render

/-- The last block, for the bytes, is the others' for a unit of one byte. -/
theorem byteString_eq (val : UInt64) :
    (byteString val).toList = ([SizeUnit.gb, .mb, .kb, .byte].foldl
      (fun t unit => sizeUnit unit.word unit.suffix t)
      { val := val, bShown := false, sSize := [] }).sSize := by
  unfold byteString
  rw [String.toList_ofList]
  simp only [List.foldl_cons, List.foldl_nil, SizeUnit.word, SizeUnit.suffix]
  -- Only the last block differs, whatever the ones before it have left.
  generalize sizeUnit 1024 ['K', 'B'] _ = t
  rw [sizeUnit]
  have hone : 1 ≤ t.val ↔ t.val ≠ 0 := by
    rw [UInt64.le_iff_toNat_le, ne_eq, ← UInt64.toNat_inj]
    exact Nat.one_le_iff_ne_zero
  by_cases hzero : t.val = 0
  · rw [if_pos hzero, if_neg (fun h => hone.mp h hzero)]
  · rw [if_neg hzero, if_pos (hone.mpr hzero), UInt64.div_one]

/-- The text is that of components which stand for the size. -/
theorem byteString_components (val : UInt64) :
    ∃ cs, SizeRendered val.toNat cs ∧ (byteString val).toList = sizeText cs := by
  have hstart : Shown val.toNat (2 ^ 64) { val := val, bShown := false, sSize := [] } [] := by
    refine ⟨rfl, rfl, val.toNat_lt, fun _ hc => absurd hc List.not_mem_nil, ?_, Nat.le_refl _⟩
    refine ⟨List.Pairwise.nil, fun _ hc => absurd hc List.not_mem_nil,
      fun _ hc => absurd hc List.not_mem_nil, ?_⟩
    exact (Nat.sub_self _).symm
  rcases sizeUnit_shown hstart .gb (by decide) (fun h => absurd rfl h) with ⟨_, hgb⟩
  rcases sizeUnit_shown hgb .mb (by decide) (fun _ => rfl) with ⟨_, hmb⟩
  rcases sizeUnit_shown hmb .kb (by decide) (fun _ => rfl) with ⟨_, hkb⟩
  rcases sizeUnit_shown hkb .byte (by decide) (fun _ => rfl) with ⟨cs, hbyte⟩
  have htext := byteString_eq val
  simp only [List.foldl_cons, List.foldl_nil] at htext
  refine ⟨cs, ?_, htext.trans hbyte.text⟩
  -- Less than one byte is left.
  have hnone := Nat.lt_one_iff.mp hbyte.rest
  have hrendered := hbyte.rendered
  rw [hnone] at hrendered
  exact hrendered

/-- Reading a character of the text of a size, with the bytes of the components
    before and the digits of this one. -/
def readSizeChar (r : Nat × Nat) (c : Char) : Nat × Nat :=
  match digitVal 10 c with
  | some d => (r.1, r.2 * 10 + d)
  | none =>
      if c = 'G' then (r.1 + r.2 * SizeUnit.gb.bytes, 0)
      else if c = 'M' then (r.1 + r.2 * SizeUnit.mb.bytes, 0)
      else if c = 'K' then (r.1 + r.2 * SizeUnit.kb.bytes, 0)
      else if c = 'B' then (r.1 + r.2 * SizeUnit.byte.bytes, 0)
      else r

/-- The size a text stands for. -/
def readSize (s : List Char) : Nat :=
  (s.foldl readSizeChar (0, 0)).1

theorem foldl_digits (n total : Nat) :
    (Nat.toDigits 10 n).foldl readSizeChar (total, 0) = (total, n) := by
  have hnum : Numeral 10 (Nat.toDigits 10 n) n := numeral_toDigits (by omega) (by omega) n
  have hall : ∀ (ds : List Char) (acc : Nat), (∀ c ∈ ds, (digitVal 10 c).isSome) →
      ds.foldl readSizeChar (total, acc) =
        (total, ds.foldl (fun acc c => acc * 10 + (digitVal 10 c).getD 0) acc) := by
    intro ds
    induction ds with
    | nil => intro acc _; rfl
    | cons c ds ih =>
        intro acc hds
        rcases Option.isSome_iff_exists.mp (hds c List.mem_cons_self) with ⟨d, hd⟩
        rw [List.foldl_cons, List.foldl_cons, hd, Option.getD_some, readSizeChar, hd]
        exact ih (acc * 10 + d) fun e he => hds e (List.mem_cons_of_mem c he)
  rw [hall _ 0 hnum.digits]
  exact congrArg (Prod.mk total) hnum.value

/-- A component adds its bytes. -/
theorem foldl_component (c : SizeCount) (total : Nat) :
    c.text.foldl readSizeChar (total, 0) = (total + c.count * c.unit.bytes, 0) := by
  rw [SizeCount.text, List.foldl_append, foldl_digits]
  -- The `B` of the larger units finds no digits.
  have hlast : ∀ t, readSizeChar (t, 0) 'B' = (t, 0) := by
    intro t
    change (t + 0 * SizeUnit.byte.bytes, 0) = (t, 0)
    rw [Nat.zero_mul, Nat.add_zero]
  cases c.unit with
  | gb => exact hlast (total + c.count * SizeUnit.gb.bytes)
  | mb => exact hlast (total + c.count * SizeUnit.mb.bytes)
  | kb => exact hlast (total + c.count * SizeUnit.kb.bytes)
  | byte => rfl

/-- The text of components reads back. -/
theorem readSize_sizeText (cs : List SizeCount) : readSize (sizeText cs) = sizeTotal cs := by
  have hall : ∀ (cs : List SizeCount) (total : Nat),
      (sizeText cs).foldl readSizeChar (total, 0) = (total + sizeTotal cs, 0) := by
    intro cs
    induction cs with
    | nil => intro total; rfl
    | cons c cs ih =>
        intro total
        have htotal : sizeTotal (c :: cs) = c.count * c.unit.bytes + sizeTotal cs :=
          List.sum_cons
        cases cs with
        | nil =>
            rw [sizeText, List.map_singleton, List.intercalate_singleton, foldl_component, htotal]
            rfl
        | cons d cs =>
            -- The blank between two components is no digit and no unit.
            have htext : sizeText (c :: d :: cs) = c.text ++ [' '] ++ sizeText (d :: cs) :=
              List.intercalate_cons_cons
            rw [htext, List.foldl_append, List.foldl_append, foldl_component, htotal,
              ← Nat.add_assoc]
            exact ih _
  rw [readSize, hall cs 0, Nat.zero_add]

/-- Two sizes never have the same text. -/
theorem byteString_injective : Function.Injective byteString := by
  intro v w heq
  rcases byteString_components v with ⟨cs, hv, hvtext⟩
  rcases byteString_components w with ⟨ds, hw, hwtext⟩
  have htotal : sizeTotal cs = sizeTotal ds := by
    rw [← readSize_sizeText, ← readSize_sizeText, ← hvtext, ← hwtext, heq]
  rw [hv.total, hw.total] at htotal
  exact UInt64.toNat_inj.mp htotal

theorem text_head (c : SizeCount) : ∃ d, c.text.head? = some d ∧ d ≠ ' ' := by
  have hnum : Numeral 10 (Nat.toDigits 10 c.count) c.count :=
    numeral_toDigits (by omega) (by omega) c.count
  rw [SizeCount.text]
  rcases hds : Nat.toDigits 10 c.count with _ | ⟨d, ds⟩
  · exact absurd hds hnum.nonempty
  · refine ⟨d, rfl, ?_⟩
    rintro rfl
    have hdigit := hnum.digits ' ' (by rw [hds]; exact List.mem_cons_self)
    exact absurd hdigit (by decide)

theorem suffix_last (unit : SizeUnit) : ∃ b, unit.suffix.getLast? = some b ∧ b ≠ ' ' := by
  cases unit with
  | byte => exact ⟨'e', rfl, by decide⟩
  | _ => exact ⟨'B', rfl, by decide⟩

/-- There is no blank before the first component, and none after the last. -/
theorem sizeText_ends (cs : List SizeCount) :
    (sizeText cs).head? ≠ some ' ' ∧ (sizeText cs).getLast? ≠ some ' ' := by
  constructor
  · cases cs with
    | nil => exact (Option.some_ne_none _).symm
    | cons c cs =>
        rcases text_head c with ⟨d, hd, hne⟩
        have hhead : (sizeText (c :: cs)).head? = some d := by
          cases cs with
          | nil =>
              rw [sizeText, List.map_singleton, List.intercalate_singleton]
              exact hd
          | cons e cs =>
              rw [sizeText, List.map_cons, List.map_cons, List.intercalate_cons_cons,
                List.append_assoc, List.head?_append, hd, Option.some_or]
        rw [hhead, ne_eq, Option.some.injEq]
        exact hne
  · rcases cs.eq_nil_or_concat with rfl | ⟨ds, c, rfl⟩
    · exact (Option.some_ne_none _).symm
    · rcases suffix_last c.unit with ⟨b, hb, hne⟩
      rw [List.concat_eq_append, sizeText_concat, SizeCount.text, ← List.append_assoc,
        List.getLast?_append, hb, Option.some_or, ne_eq, Option.some.injEq]
      exact hne

/-- `BYTE_STRING` renders every size as components that add up to it, and no two
    sizes alike. -/
theorem byteString_rendered :
    (∀ v : UInt64, ∃ cs, SizeRendered v.toNat cs ∧ (byteString v).toList = sizeText cs ∧
      (sizeText cs).head? ≠ some ' ' ∧ (sizeText cs).getLast? ≠ some ' ') ∧
      (∀ v : UInt64, byteString v = "" ↔ v = 0) ∧ Function.Injective byteString := by
  refine ⟨fun v => ?_, fun v => ?_, byteString_injective⟩
  · rcases byteString_components v with ⟨cs, hrendered, htext⟩
    exact ⟨cs, hrendered, htext, sizeText_ends cs⟩
  · have hzero : byteString 0 = "" := rfl
    rw [← hzero]
    exact byteString_injective.eq_iff

end QemuTestdrive
