import QemuTestdrive.Core.Params
import QemuTestdrive.Theory.Spellings

/-!
# The Identity of the Device

When `testdrive_init` stores what the configuration says. An entry that is not a
number at all is an exception nobody catches, and a number is cut to the width of
its field, which is what an identity is compared by. The only test, of the vendor,
comes after the cut.

An entry fits a field if it is empty, or is a numeral of a number below the bound
of the field. For one entry that is exactly when it is read and stored as it should
be (`stored_iff`), and `testdrive_init` ends with all of its entries stored, unless
it refuses the vendor or comes to an entry that cannot be read (`init_ends`).

## Main definitions

* `Configures`: The number an entry stands for.
* `identityFields`: The entries and the widths of their fields.
* `IdentityStored`: The identity is stored as configured, or refused.
* `IdentityFits`: The entries for which that is so.
* `InitEnds`: How `testdrive_init` ends.

## Theorems

* `stored_iff`: When an entry is stored as it should be.
* `init_ends`: It ends in one of these ways.
* `identityStored_iff`: When the identity is stored as configured or refused.
-/

namespace QemuTestdrive

/-- The entry `s` stands for the number `n`: the default if it is empty, and else the
    number its digits denote. -/
def Configures (s : String) (uDefault n : Nat) : Prop :=
  s = "" ∧ n = uDefault ∨ Spells n (.string s)

/-- The entry is empty or denotes a number of the given width. -/
def Fits (s : String) (width : Nat) : Prop :=
  s = "" ∨ ∃ n < 2 ^ width, Spells n (.string s)

/-- The entries of the identity and the widths of their fields. -/
def identityFields : List (String × Nat) :=
  [("MAIN_VENDOR_ID", 16), ("MAIN_DEVICE_ID", 16), ("SUB_VENDOR_ID", 16), ("SUB_DEVICE_ID", 16),
    ("CLASS_ID", 16), ("REVISION", 8)]

section Identity

variable (environment : String → Option String)

/-- `testdrive_init` returns, and if it returns true every field is the number its
    entry stands for, and the vendor is not zero. -/
structure IdentityStored (x : InitState) : Prop where
  returns : ∃ b, (testdriveInit environment x).2 = .ok b
  stored : (testdriveInit environment x).2 = .ok true →
    let p := (testdriveInit environment x).1.param
    Configures (getConfiguration environment "MAIN_VENDOR_ID") 0x1234 p.main.vendorId.toNat ∧
      Configures (getConfiguration environment "MAIN_DEVICE_ID") 0 p.main.deviceId.toNat ∧
      Configures (getConfiguration environment "SUB_VENDOR_ID") 0 p.sub.vendorId.toNat ∧
      Configures (getConfiguration environment "SUB_DEVICE_ID") 0 p.sub.deviceId.toNat ∧
      Configures (getConfiguration environment "CLASS_ID") 0 p.classId.toNat ∧
      Configures (getConfiguration environment "REVISION") 0 p.revision.toNat ∧
      p.main.vendorId ≠ 0

/-- The vendor is read as a number whose low half-word is zero, and refused for it. -/
def VendorRefused : Prop :=
  ∃ v, getConfigurationValue (getConfiguration environment "MAIN_VENDOR_ID") 0x1234 = .ok v ∧
    v.toUInt16 = 0

/-- The vendor is refused, or every entry fits its field. -/
def IdentityFits : Prop :=
  VendorRefused environment ∨
    ∀ f ∈ identityFields, Fits (getConfiguration environment f.1) f.2

theorem identityFields_width : ∀ f ∈ identityFields, f.2 ≤ 64 := by decide

/-- An entry that fits is read. -/
theorem fits_read {s : String} {width : Nat} (hwidth : width ≤ 64) (h : Fits s width)
    (uDefault : UInt64) : ∃ v, getConfigurationValue s uDefault = .ok v := by
  rcases h with rfl | ⟨n, hn, hs⟩
  · exact ⟨uDefault, rfl⟩
  · have hlt : n < 2 ^ 64 := Nat.lt_of_lt_of_le hn (Nat.pow_le_pow_right (by omega) hwidth)
    exact ⟨_, getConfigurationValue_spells hlt hs uDefault⟩

/-- An entry that is read is stored as the number it stands for exactly when it fits
    the field it is cut to. -/
theorem stored_iff {s : String} {width : Nat} (hwidth : width ≤ 64) {uDefault v : UInt64}
    (hdefault : uDefault.toNat < 2 ^ width) (hv : getConfigurationValue s uDefault = .ok v) :
    Configures s uDefault.toNat (v.toNat % 2 ^ width) ↔ Fits s width := by
  constructor
  · rintro (⟨hempty, _⟩ | hs)
    · exact Or.inl hempty
    · exact Or.inr ⟨_, Nat.mod_lt _ (Nat.two_pow_pos width), hs⟩
  · rintro (rfl | ⟨n, hn, hs⟩)
    · left
      have hval : uDefault = v := Except.ok.inj hv
      rw [← hval, Nat.mod_eq_of_lt hdefault]
      exact ⟨rfl, rfl⟩
    · right
      have hlt : n < 2 ^ 64 := Nat.lt_of_lt_of_le hn (Nat.pow_le_pow_right (by omega) hwidth)
      rw [getConfigurationValue_spells hlt hs, Except.ok.injEq] at hv
      rw [← hv, toNat_ofNat hlt, Nat.mod_eq_of_lt hn]
      exact hs

/-- How `testdrive_init` ends: at an entry that cannot be read, with the vendor
    refused, or with every entry stored, cut to the width of its field. -/
inductive InitEnds : InitState × Except CxxException Bool → Prop where
  | thrown {y : InitState} {e : CxxException} {f : String × Nat} {uDefault : UInt64}
      (hf : f ∈ identityFields) (hvendor : ¬ VendorRefused environment)
      (h : getConfigurationValue (getConfiguration environment f.1) uDefault = .error e) :
      InitEnds (y, .error e)
  | refused {y : InitState} (hvendor : VendorRefused environment) : InitEnds (y, .ok false)
  | stored {y : InitState} {v₀ v₁ v₂ v₃ v₄ v₅ : UInt64} (hvendor : v₀.toUInt16 ≠ 0)
      (h₀ : getConfigurationValue (getConfiguration environment "MAIN_VENDOR_ID") 0x1234 = .ok v₀)
      (h₁ : getConfigurationValue (getConfiguration environment "MAIN_DEVICE_ID") 0 = .ok v₁)
      (h₂ : getConfigurationValue (getConfiguration environment "SUB_VENDOR_ID") 0 = .ok v₂)
      (h₃ : getConfigurationValue (getConfiguration environment "SUB_DEVICE_ID") 0 = .ok v₃)
      (h₄ : getConfigurationValue (getConfiguration environment "CLASS_ID") 0 = .ok v₄)
      (h₅ : getConfigurationValue (getConfiguration environment "REVISION") 0 = .ok v₅)
      (hmain : y.param.main = { vendorId := v₀.toUInt16, deviceId := v₁.toUInt16 })
      (hsub : y.param.sub = { vendorId := v₂.toUInt16, deviceId := v₃.toUInt16 })
      (hclass : y.param.classId = v₄.toUInt16) (hrevision : y.param.revision = v₅.toUInt8) :
      InitEnds (y, .ok true)

/-- To know how an assignment ends it is enough to know how it goes on, unless its
    entry cannot be read. -/
theorem assign_ends {sName : String} {uDefault : UInt64} {store : UInt64 → PciParam → PciParam}
    {x : InitState} {next : InitState → InitState × Except CxxException Bool}
    {P : InitState × Except CxxException Bool → Prop}
    (hstop : ∀ e, getConfigurationValue (getConfiguration environment sName) uDefault = .error e →
      P (x, .error e))
    (hnext : ∀ v, getConfigurationValue (getConfiguration environment sName) uDefault = .ok v →
      P (next { x with param := store v x.param })) :
    P (assign environment sName uDefault store x next) := by
  unfold assign
  cases h : getConfigurationValue (getConfiguration environment sName) uDefault with
  | error e => exact hstop e h
  | ok v => exact hnext v h

theorem init_ends (x : InitState) : InitEnds environment (testdriveInit environment x) := by
  unfold testdriveInit
  refine assign_ends environment (fun e h => ?_) fun v₀ h₀ => ?_
  · refine .thrown (f := ("MAIN_VENDOR_ID", 16)) (by decide) ?_ h
    rintro ⟨v, hv, _⟩
    rw [h] at hv
    exact absurd hv (by simp only [reduceCtorEq, not_false_eq_true])
  by_cases hzero : v₀.toUInt16 = 0
  · rw [if_pos hzero]
    exact .refused ⟨v₀, h₀, hzero⟩
  have hvendor : ¬ VendorRefused environment := by
    rintro ⟨v, hv, hrefused⟩
    rw [Except.ok.inj (hv.symm.trans h₀)] at hrefused
    exact hzero hrefused
  rw [if_neg hzero]
  refine assign_ends environment
    (fun e => .thrown (f := ("MAIN_DEVICE_ID", 16)) (by decide) hvendor) fun v₁ h₁ => ?_
  refine assign_ends environment
    (fun e => .thrown (f := ("SUB_VENDOR_ID", 16)) (by decide) hvendor) fun v₂ h₂ => ?_
  refine assign_ends environment
    (fun e => .thrown (f := ("SUB_DEVICE_ID", 16)) (by decide) hvendor) fun v₃ h₃ => ?_
  refine assign_ends environment
    (fun e => .thrown (f := ("CLASS_ID", 16)) (by decide) hvendor) fun v₄ h₄ => ?_
  refine assign_ends environment
    (fun e => .thrown (f := ("REVISION", 8)) (by decide) hvendor) fun v₅ h₅ => ?_
  -- The rest is the name of the ROM file.
  unfold setRomFile
  simp only
  split
  · exact .stored hzero h₀ h₁ h₂ h₃ h₄ h₅ rfl rfl rfl rfl
  · exact .stored hzero h₀ h₁ h₂ h₃ h₄ h₅ rfl rfl rfl rfl

/-- The identity is stored as configured, or refused, exactly when the vendor is
    refused or every entry fits its field. -/
theorem identityStored_iff (x : InitState) :
    IdentityStored environment x ↔ IdentityFits environment := by
  have hspec : IdentityStored environment x ↔ _ := ⟨fun h => And.intro h.returns h.stored,
    fun h => ⟨h.1, h.2⟩⟩
  rw [hspec]
  have hends := init_ends environment x
  revert hends
  generalize testdriveInit environment x = r
  intro hends
  cases hends with
  | @thrown y e f uDefault hf hvendor h =>
      -- Nothing catches the exception, and an entry that fits would have been read.
      refine iff_of_false ?_ ?_
      · rintro ⟨⟨b, hb⟩, _⟩
        exact absurd hb (by simp only [reduceCtorEq, not_false_eq_true])
      · rintro (hrefused | hfits)
        · exact hvendor hrefused
        · rcases fits_read (identityFields_width f hf) (hfits f hf) uDefault with ⟨v, hv⟩
          rw [h] at hv
          exact absurd hv (by simp only [reduceCtorEq, not_false_eq_true])
  | refused hvendor =>
      refine iff_of_true ⟨⟨false, rfl⟩, fun htrue => ?_⟩ (Or.inl hvendor)
      exact absurd htrue (by simp only [Except.ok.injEq, Bool.false_eq_true, not_false_eq_true])
  | @stored y v₀ v₁ v₂ v₃ v₄ v₅ hvendor h₀ h₁ h₂ h₃ h₄ h₅ hmain hsub hclass hrevision =>
      have hkept : ¬ VendorRefused environment := by
        rintro ⟨v, hv, hrefused⟩
        rw [Except.ok.inj (hv.symm.trans h₀)] at hrefused
        exact hvendor hrefused
      -- The vendor has passed its test, so all six fields have to fit.
      have hfits : IdentityFits environment ↔
          ∀ f ∈ identityFields, Fits (getConfiguration environment f.1) f.2 :=
        ⟨fun h => h.resolve_left hkept, Or.inr⟩
      rw [hfits]
      simp only [identityFields, List.forall_mem_cons, List.not_mem_nil, false_implies,
        implies_true, and_true]
      rw [← stored_iff (by omega) (by decide) h₀, ← stored_iff (by omega) (by decide) h₁,
        ← stored_iff (by omega) (by decide) h₂, ← stored_iff (by omega) (by decide) h₃,
        ← stored_iff (by omega) (by decide) h₄, ← stored_iff (by omega) (by decide) h₅]
      simp only [hmain, hsub, hclass, hrevision, UInt64.toNat_toUInt16, UInt64.toNat_toUInt8]
      constructor
      · rintro ⟨_, hstored⟩
        rcases hstored trivial with ⟨hs₀, hs₁, hs₂, hs₃, hs₄, hs₅, _⟩
        exact ⟨hs₀, hs₁, hs₂, hs₃, hs₄, hs₅⟩
      · rintro ⟨hs₀, hs₁, hs₂, hs₃, hs₄, hs₅⟩
        exact ⟨⟨true, rfl⟩, fun _ => ⟨hs₀, hs₁, hs₂, hs₃, hs₄, hs₅, hvendor⟩⟩

end Identity

/-- An environment with one entry of the configuration. -/
def oneEntry (sName value : String) : String → Option String :=
  fun key => if key = sName ++ "@TESTDRIVE_DEVICE@qemu_testdrive.ini" then some value else none

/-- A device that is a number of 17 bits is stored as another one, and one that is no
    number ends the function with an exception. -/
theorem identity_altered :
    (testdriveInit (oneEntry "MAIN_DEVICE_ID" "70000") InitState.start).2 = .ok true ∧
      (testdriveInit (oneEntry "MAIN_DEVICE_ID" "70000") InitState.start).1.param.main.deviceId =
        4464 ∧
      ¬ IdentityStored (oneEntry "MAIN_DEVICE_ID" "70000") InitState.start ∧
      (testdriveInit (oneEntry "MAIN_DEVICE_ID" "virtio") InitState.start).2 =
        .error .invalidArgument ∧
      ¬ IdentityStored (oneEntry "MAIN_DEVICE_ID" "virtio") InitState.start := by
  have hthrown : (testdriveInit (oneEntry "MAIN_DEVICE_ID" "virtio") InitState.start).2 =
      .error .invalidArgument := by decide
  have htrue : (testdriveInit (oneEntry "MAIN_DEVICE_ID" "70000") InitState.start).2 =
      .ok true := by decide
  have hdevice : (testdriveInit (oneEntry "MAIN_DEVICE_ID" "70000")
      InitState.start).1.param.main.deviceId = 4464 := by decide
  refine ⟨htrue, hdevice, fun h => ?_, hthrown, fun h => ?_⟩
  · have hstored := (h.stored htrue).2.1
    rw [hdevice] at hstored
    have hentry : getConfiguration (oneEntry "MAIN_DEVICE_ID" "70000") "MAIN_DEVICE_ID" =
        "70000" := by decide
    rw [hentry] at hstored
    rcases hstored with ⟨hempty, _⟩ | hspells
    · exact absurd hempty (by decide)
    · cases hspells with
      | decimal hnum => exact absurd hnum.value (by decide)
      | hex hs _ => exact absurd (List.cons.inj hs).1 (by decide)
  · rcases h.returns with ⟨b, hb⟩
    rw [hthrown] at hb
    exact absurd hb (by simp only [reduceCtorEq, not_false_eq_true])

end QemuTestdrive
