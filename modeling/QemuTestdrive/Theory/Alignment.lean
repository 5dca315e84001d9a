import QemuTestdrive.Lib.BitMask
import QemuTestdrive.Theory.Events
import QemuTestdrive.Theory.Window

/-!
# The Alignment Warning

`CreateBAR` warns about an address that is not aligned, with a mask made from
the size. It does so before it corrects the size, so the mask is `byte_size - 1`
for the size as it was asked for. When that is a power of two the correction
changes nothing and the test is exact. Otherwise the mask has holes, and an
address whose low bits all fall into them is not found. Above the top bit the
mask has one bit too many instead, and finds the one aligned address that has
it.

## Main definitions

* `alignmentWarning`: The message about an address that is not aligned.
* `AlignmentWarned`: A call of `CreateBAR` has added it.
* `MaskFindsLowBits`: The sizes and addresses for which the mask is right.

## Theorems

* `mem_barMessages_iff`: When the message is one of those about a BAR.
* `alignmentWarned_iff`: When a call adds the message.
* `maskFindsLowBits_iff`: When the mask is right.
* `alignmentWarned_exact`: When the warning is about the BAR that is created.
-/

namespace QemuTestdrive

/-- The warning about the address of a BAR. -/
def alignmentWarning (bar : TestdrivePciBar) : LogMode × String :=
  (.warning, "PCIe.BAR[" ++ toString bar.option.barId.toNat ++ "] : binding address(" ++
    hexString bar.bindAddress ++ ") must be aligned by size(" ++ hexString bar.byteSize ++ ":" ++
    byteString bar.byteSize ++ ").")

/-- The events a successful `CreateBAR` for the size `m` and the address `a` has
    added to the trace, with the warning among them. -/
def AlignmentWarned (F : Framework) (x : Ctx) (sType : String) (size addr b64 pf : LuaRef)
    (m a : UInt64) : Prop :=
  ∃ es, (x.createBAR F (some sType) size addr b64 pf).1.world.trace = x.world.trace ++ es ∧
    Event.message (alignmentWarning (x.requested F sType m a b64 pf)) ∈ es

/-- An address with a bit below the corrected size has one in common with
    `m - 1`, and for a size above the top bit the address is not the top bit. -/
structure MaskFindsLowBits (m a : UInt64) : Prop where
  low : (∃ j < min (Nat.clog 2 m.toNat) 63, a.toNat.testBit j = true) →
    ∃ j, (m.toNat - 1).testBit j = true ∧ a.toNat.testBit j = true
  top : 2 ^ 63 < m.toNat → a.toNat ≠ 2 ^ 63

/-- What `lua_int64::GET` logs is about errors. -/
theorem get_messages (F : Framework) (v : LuaRef) :
    ∀ l ∈ (LuaInt64.GET F v).1, l.1 = .error := by
  intro l hl
  cases v with
  | nil => rw [List.mem_singleton.mp hl]
  | boolean b => rw [List.mem_singleton.mp hl]
  | number n =>
      unfold LuaInt64.GET at hl
      simp only at hl
      split at hl
      · exact absurd hl List.not_mem_nil
      · exact absurd hl List.not_mem_nil
  | string s => exact absurd hl List.not_mem_nil
  | int64 m => exact absurd hl List.not_mem_nil
  | userdata => rw [List.mem_singleton.mp hl]
  | other => rw [List.mem_singleton.mp hl]

/-- A text begins with what its first part begins with. -/
theorem head_append {s : String} {c : Char} (h : s.toList.head? = some c) (t : String) :
    (s ++ t).toList.head? = some c := by
  rw [String.toList_append, List.head?_append, h]
  rfl

theorem alignmentWarning_head (bar : TestdrivePciBar) :
    (alignmentWarning bar).2.toList.head? = some 'P' := by
  unfold alignmentWarning
  iterate 8 apply head_append
  rfl

/-- The alignment warning is one of the messages about a BAR exactly when the
    mask of the size finds the address. -/
theorem mem_barMessages_iff (bar : TestdrivePciBar) :
    alignmentWarning bar ∈ barMessages bar ↔ (bar.byteSize - 1) &&& bar.bindAddress ≠ 0 := by
  unfold barMessages
  simp only
  by_cases hmask : (bar.byteSize - 1) &&& bar.bindAddress ≠ 0
  · rw [if_pos hmask]
    refine iff_of_true ?_ hmask
    exact List.mem_append_left _ (List.mem_append_right _ List.mem_cons_self)
  · rw [if_neg hmask, List.append_nil]
    refine iff_of_false (fun hmem => ?_) hmask
    rcases List.mem_append.mp hmem with hinfo | hfix
    · -- The first message is no warning.
      have hmode := congrArg Prod.fst (List.mem_singleton.mp hinfo)
      exact LogMode.noConfusion hmode
    · -- The message about the correction begins in another way.
      split at hfix
      · have htext := congrArg Prod.snd (List.mem_singleton.mp hfix)
        have hhead := alignmentWarning_head bar
        rw [htext, head_append (c := 'I') rfl] at hhead
        exact absurd hhead (by decide)
      · exact absurd hfix List.not_mem_nil

/-- A successful `CreateBAR` adds the warning exactly when the mask of the size
    it was called with finds the address. -/
theorem alignmentWarned_iff {F : Framework} {x : Ctx} {sType : String} {size addr b64 pf : LuaRef}
    {m a : UInt64} (hsize : Decodes F size m) (haddr : Decodes F addr a)
    (hok : (x.createBAR F (some sType) size addr b64 pf).2 = .ok true) :
    AlignmentWarned F x sType size addr b64 pf m a ↔ (m - 1) &&& a ≠ 0 := by
  have htrace := createBAR_trace F x b64 pf hsize haddr hok
  have hbar := mem_barMessages_iff (x.requested F sType m a b64 pf)
  -- The messages of the decodings are about errors, so the warning is not among them.
  have hget : ∀ v, alignmentWarning (x.requested F sType m a b64 pf) ∉ (LuaInt64.GET F v).1 :=
    fun v hv => LogMode.noConfusion (get_messages F v _ hv)
  have hinj : Function.Injective Event.message := by
    intro l l' h
    exact Prod.ext (Event.log.inj h).1 (Event.log.inj h).2
  constructor
  · rintro ⟨es, hes, hmem⟩
    rw [List.append_assoc] at htrace
    rw [List.append_cancel_left (hes.symm.trans htrace), List.mem_append,
      or_iff_left (message_notMem_pointerCalls _ _ _ _), List.mem_map_of_injective hinj,
      List.mem_append, List.mem_append] at hmem
    rcases hmem with (hs | ha) | hmem
    · exact absurd hs (hget size)
    · exact absurd ha (hget addr)
    · exact hbar.mp hmem
  · intro hmask
    rw [List.append_assoc] at htrace
    exact ⟨_, htrace, List.mem_append_left _
      (List.mem_map_of_mem (List.mem_append_right _ (hbar.mpr hmask)))⟩

/-- The mask of a size finds exactly the addresses that are not aligned by the
    corrected size, for the sizes and addresses it is right for. -/
theorem maskFindsLowBits_iff {m a : UInt64} (hm : m ≠ 0) :
    ((m - 1) &&& a ≠ 0 ↔ ¬ (correctedSize m).toNat ∣ a.toNat) ↔ MaskFindsLowBits m a := by
  have hpos : 0 < m.toNat := Nat.pos_of_ne_zero fun h => hm (UInt64.toNat_inj.mp h)
  have hmask : (m - 1) &&& a ≠ 0 ↔ (m.toNat - 1) &&& a.toNat ≠ 0 := by
    have hsub : (m - 1).toNat = m.toNat - 1 :=
      UInt64.toNat_sub_of_le _ _ (UInt64.le_iff_toNat_le.mpr hpos)
    rw [ne_eq, ← UInt64.toNat_inj, UInt64.toNat_and, hsub]
    exact Iff.rfl
  have hlt := m.toNat_lt
  have halt := a.toNat_lt
  rw [hmask, correctedSize_toNat m hm, BitMask.not_dvd_iff, BitMask.and_ne_zero_iff]
  constructor
  · intro h
    refine ⟨h.mpr, fun htop haddr => ?_⟩
    -- The top bit is in the mask, and the address has no other.
    have hlog := (Nat.lt_clog_iff_pow_lt (by omega)).mpr htop
    have hbit : (m.toNat - 1).testBit 63 = true := by
      rw [Nat.testBit_eq_decide_div_mod_eq, decide_eq_true_iff]
      omega
    rcases h.mp ⟨63, hbit, by rw [haddr]; exact Nat.testBit_two_pow_self⟩ with ⟨j, hj, hja⟩
    rw [haddr, Nat.testBit_two_pow_of_ne (by omega)] at hja
    exact Bool.false_ne_true hja
  · intro h
    refine ⟨?_, h.low⟩
    rintro ⟨j, hjm, hja⟩
    by_cases hlow : j < min (Nat.clog 2 m.toNat) 63
    · exact ⟨j, hlow, hja⟩
    -- A common bit that is not low is the top bit, for a size above it.
    have hj : j < 64 := BitMask.lt_of_testBit (by omega) hjm
    have htop : 2 ^ 63 < m.toNat := by
      by_contra hle
      have hlog := (Nat.clog_le_iff_le_pow (by omega)).mpr (Nat.not_lt.mp hle)
      have hpow : m.toNat ≤ 2 ^ Nat.clog 2 m.toNat := Nat.le_pow_clog (by omega) _
      have hsmall := BitMask.lt_of_testBit (k := Nat.clog 2 m.toNat) (by omega) hjm
      omega
    have hlog := (Nat.lt_clog_iff_pow_lt (by omega)).mpr htop
    have hj63 : j = 63 := by omega
    subst hj63
    -- Without a lower bit, the address would be the top bit itself.
    rw [Nat.min_eq_right (by omega), ← BitMask.not_dvd_iff]
    rintro ⟨c, hc⟩
    have hge := Nat.ge_two_pow_of_testBit hja
    exact h.top htop (by omega)

/-- The mask is right for a size that is a power of two. -/
theorem maskFindsLowBits_pow {m a : UInt64} {k : Nat} (hk : m.toNat = 2 ^ k) (hk63 : k ≤ 63) :
    MaskFindsLowBits m a := by
  refine ⟨fun h => ?_, fun htop => ?_⟩
  · rcases h with ⟨j, hj, hja⟩
    rw [hk, Nat.clog_pow 2 k (by omega)] at hj
    refine ⟨j, ?_, hja⟩
    rw [hk, Nat.testBit_two_pow_sub_one, decide_eq_true_iff]
    omega
  · rw [hk] at htop
    have hexp := (Nat.pow_lt_pow_iff_right (by omega)).mp htop
    omega

/-- The alignment warning of a successful `CreateBAR` is about the BAR that is
    created exactly when the mask of the size is right for the address. -/
theorem alignmentWarned_exact (F : Framework) (x : Ctx) (sType : String)
    (size addr b64 pf : LuaRef) (m a : UInt64) (hm : m ≠ 0) (hsize : Decodes F size m)
    (haddr : Decodes F addr a) (hok : (x.createBAR F (some sType) size addr b64 pf).2 = .ok true) :
    ∃ bar, (x.createBAR F (some sType) size addr b64 pf).1.this.mBARs.lookup
          (x.requested F sType m a b64 pf).option.barId.toNat = some bar ∧
      bar.bindAddress = a ∧
      ((AlignmentWarned F x sType size addr b64 pf m a ↔ ¬ bar.byteSize.toNat ∣ a.toNat) ↔
        MaskFindsLowBits m a) := by
  refine ⟨_, createBAR_stored hsize haddr hok, rfl, ?_⟩
  rw [alignmentWarned_iff hsize haddr hok]
  exact maskFindsLowBits_iff hm

theorem alignmentWarned_exact_page :
    ∃ bar, (Ctx.start.createBAR Framework.standard (some "memory") (.int64 0x1000) (.int64 0x1800)
          .nil .nil).1.this.mBARs.lookup 0 = some bar ∧
      bar.bindAddress = 0x1800 ∧
      ((AlignmentWarned Framework.standard Ctx.start "memory" (.int64 0x1000) (.int64 0x1800)
          .nil .nil 0x1000 0x1800 ↔ ¬ bar.byteSize.toNat ∣ (0x1800 : UInt64).toNat) ↔
        MaskFindsLowBits 0x1000 0x1800) :=
  alignmentWarned_exact Framework.standard Ctx.start "memory" (.int64 0x1000) (.int64 0x1800) .nil
    .nil 0x1000 0x1800 (by decide) rfl rfl (by decide)

/-- A BAR of 0x3000 bytes becomes one of 0x4000. The address 0x1000 is not aligned
    by that, and there is no warning. -/
theorem alignment_missed :
    (Ctx.start.createBAR Framework.standard (some "memory") (.int64 0x3000) (.int64 0x1000) .nil
        .nil).2 = .ok true ∧
      ¬ (correctedSize 0x3000).toNat ∣ (0x1000 : UInt64).toNat ∧
      ¬ AlignmentWarned Framework.standard Ctx.start "memory" (.int64 0x3000) (.int64 0x1000) .nil
        .nil 0x3000 0x1000 := by
  have hok : (Ctx.start.createBAR Framework.standard (some "memory") (.int64 0x3000)
      (.int64 0x1000) .nil .nil).2 = .ok true := by decide
  have hsize : Decodes Framework.standard (.int64 0x3000) 0x3000 := rfl
  have haddr : Decodes Framework.standard (.int64 0x1000) 0x1000 := rfl
  refine ⟨hok, by decide, fun h => ?_⟩
  exact (alignmentWarned_iff hsize haddr hok).mp h (by decide)

end QemuTestdrive
