import QemuTestdrive.Theory.Display
import QemuTestdrive.Theory.Numerals

/-!
# How a Script Writes a Number

A script can write a number as an `int64` object, as a string of digits or as a
Lua number. `lua_int64::GET` reads the three in three ways. The object is copied.
A string is read in base ten, also one with the prefix `0x`, of which only the
zero is left, while `GetConfigurationValue` reads that prefix as what it is. A
Lua number is converted to 32 bits.

`EnableDisplay` does not use `GET` for its address, but the conversion of the
binding to 64 bits. That has no trouble with large integers, and it refuses the
`int64` objects that `GetMemoryBase` returns.

## Main definitions

* `Spells`: The ways to write a number.
* `Framework.ConvertsTo32`, `Framework.ConvertsTo64`: What the binding does.
* `ReadUnchanged`: A value is read as the number it is meant to be.
* `ReadsSpelling`: The spellings for which that is so.
* `AddressValue`: The values both operations take for an address.
* `AddressesAgree`: Both operations read the same address.
* `SameConversion`: The values for which they do.

## Theorems

* `spells_toDigits`: Every number is spelled by its digits.
* `getConfigurationValue_spells`: The configuration reads both kinds of string.
* `get_spelling`: What `GET` makes of a spelling.
* `readUnchanged_iff`: When a spelling is read unchanged.
* `createBAR_spellings`: Two spellings that are make the same BAR.
* `addressesAgree_iff_cast`: The operations agree where `GET` and the cast do.
* `addressesAgree_iff`: When both operations read the same address.
-/

namespace QemuTestdrive

/-- The values a script can write the number `n` as: an object, its digits, its
    hexadecimal digits after the prefix, and a Lua integer. -/
inductive Spells (n : Nat) : LuaRef → Prop where
  | int64 {m : UInt64} (h : m.toNat = n) : Spells n (.int64 m)
  | decimal {s : String} (h : Numeral 10 s.toList n) : Spells n (.string s)
  | hex {s : String} {ds : List Char} (hs : s.toList = '0' :: 'x' :: ds)
      (h : Numeral 16 ds n) : Spells n (.string s)
  | integer {i : Int64} (h : i.toInt = n) : Spells n (.number (.integer i))

/-- The conversion of a Lua integer to 32 bits keeps the value modulo `2 ^ 32`, or
    fails for one that does not fit. -/
def Framework.ConvertsTo32 (F : Framework) : Prop :=
  ∀ i : Int64, F.toUint32 (.integer i) = some i.toUInt64.toUInt32 ∨
    F.toUint32 (.integer i) = none ∧ ¬ (0 ≤ i.toInt ∧ i.toInt < 2 ^ 32)

/-- The conversion to 64 bits keeps the value of a Lua integer, or fails for a
    negative one, and it fails on an object. -/
structure Framework.ConvertsTo64 (F : Framework) : Prop where
  integer : ∀ i : Int64, F.toUint64 (.number (.integer i)) = some i.toUInt64 ∨
    F.toUint64 (.number (.integer i)) = none ∧ i.toInt < 0
  object : ∀ m, F.toUint64 (.int64 m) = none

/-- A value is read as the number `n`, and `CreateBAR` takes it for the size or
    the address as it takes the object that holds `n`. -/
structure ReadUnchanged (F : Framework) (n : Nat) (v : LuaRef) : Prop where
  get : Decodes F v (UInt64.ofNat n)
  size : ∀ (x : Ctx) (t : Option String) (addr b64 pf : LuaRef),
    x.createBAR F t v addr b64 pf = x.createBAR F t (.int64 (UInt64.ofNat n)) addr b64 pf
  address : ∀ (x : Ctx) (t : Option String) (size b64 pf : LuaRef),
    x.createBAR F t size v b64 pf = x.createBAR F t size (.int64 (UInt64.ofNat n)) b64 pf

/-- A spelling of `n` is not hexadecimal, unless `n` is zero, and if it is a Lua
    integer, `n` fits in 32 bits. -/
def ReadsSpelling (n : Nat) : LuaRef → Prop
  | .string s => ['0', 'x'] <+: s.toList → n = 0
  | .number _ => n < 2 ^ 32
  | _ => True

/-- The address arguments both operations take: an object, a string of decimal
    digits, or a number. -/
inductive AddressValue : LuaRef → Prop where
  | int64 (m : UInt64) : AddressValue (.int64 m)
  | decimal {s : String} {n : Nat} (h : Numeral 10 s.toList n) : AddressValue (.string s)
  | number (k : LuaNumber) : AddressValue (.number k)

/-- `EnableDisplay` takes its buffer at the address `GET` reads from the same
    argument, with any system and for any sizes that are not zero, and does not
    return true if `GET` reads none. -/
def AddressesAgree (F : Framework) (v : LuaRef) : Prop :=
  ∀ (x : Ctx) (s : SimSystem) (w h : Int32) (fmt : LuaRef),
    x.this.mpSystem = some s → w ≠ 0 → h ≠ 0 →
      match (LuaInt64.GET F v).2 with
      | .ok a => (x.enableDisplay F w h v fmt).2 = .ok true ∧
          (x.enableDisplay F w h v fmt).1.this.display.pBuffer = s.getMemoryPointer a
      | .error _ => (x.enableDisplay F w h v fmt).2 ≠ .ok true

/-- The value is no object; the binding converts the string to the number it
    denotes; the integer fits in 32 bits, or is negative and converted by
    neither; the two conversions of a float give the same. -/
def SameConversion (F : Framework) : LuaRef → Prop
  | .string s => ∀ n, Numeral 10 s.toList n →
      F.toUint64 (.string s) = if 2 ^ 64 ≤ n then none else some (UInt64.ofNat n)
  | .number (.integer i) => i.toInt < 2 ^ 32 ∧
      (i.toInt < 0 → F.toUint32 (.integer i) = none ∧ F.toUint64 (.number (.integer i)) = none)
  | .number (.float bits) =>
      F.toUint64 (.number (.float bits)) = (F.toUint32 (.float bits)).map UInt32.toUInt64
  | _ => False

/-- A module whose pointer to a device address is the address itself. -/
def ISystemSim.identity : ISystemSim :=
  { description := "", memoryBase := 0, memorySize := 0, memoryPointer := fun a => some a.toNat }

theorem toNat_ofNat {n : Nat} (hn : n < 2 ^ 64) : (UInt64.ofNat n).toNat = n :=
  UInt64.toNat_ofNat_of_lt' hn

/-- A Lua integer cut to 32 bits and widened again. -/
theorem toNat_low32 (i : Int64) :
    (i.toUInt64.toUInt32.toUInt64.toNat : Int) = i.toInt % 2 ^ 32 := by
  have hnat : i.toUInt64.toUInt32.toUInt64.toNat = i.toUInt64.toNat % 2 ^ 32 := by
    rw [UInt32.toNat_toUInt64, UInt64.toNat_toUInt32]
  have hfull := toNat_toUInt64 i
  rw [hnat]
  omega

/-- The digits a number is written with spell it, and so do its hexadecimal digits
    after the prefix. -/
theorem spells_toDigits (n : Nat) :
    Spells n (.string (String.ofList (Nat.toDigits 10 n))) ∧
      Spells n (.string (String.ofList ('0' :: 'x' :: Nat.toDigits 16 n))) := by
  have hten : Numeral 10 (Nat.toDigits 10 n) n := numeral_toDigits (by omega) (by omega) n
  have hsixteen : Numeral 16 (Nat.toDigits 16 n) n := numeral_toDigits (by omega) (by omega) n
  exact ⟨.decimal (by rw [String.toList_ofList]; exact hten),
    .hex String.toList_ofList hsixteen⟩

/-- The configuration reads a number from either kind of string. -/
theorem getConfigurationValue_spells {n : Nat} (hn : n < 2 ^ 64) {s : String}
    (hs : Spells n (.string s)) (uDefault : UInt64) :
    getConfigurationValue s uDefault = .ok (UInt64.ofNat n) := by
  cases hs with
  | decimal h => exact getConfigurationValue_decimal hn h uDefault
  | hex hs h => exact getConfigurationValue_hex hn hs h uDefault

section Read

variable (F : Framework)

/-- Values that are decoded alike are interchangeable as sizes and as addresses. -/
theorem createBAR_congr {v v' : LuaRef} (h : LuaInt64.GET F v = LuaInt64.GET F v') (x : Ctx)
    (t : Option String) (arg b64 pf : LuaRef) :
    x.createBAR F t v arg b64 pf = x.createBAR F t v' arg b64 pf ∧
      x.createBAR F t arg v b64 pf = x.createBAR F t arg v' b64 pf := by
  unfold Ctx.createBAR
  simp only [h, and_self]

/-- `GET` reads only the zero of a hexadecimal prefix. -/
theorem get_hex {n : Nat} {s : String} {ds : List Char} (hs : s.toList = '0' :: 'x' :: ds)
    (h : Numeral 16 ds n) : LuaInt64.GET F (.string s) = ([], .ok 0) := by
  unfold LuaInt64.GET
  simp only [cStr_hex hs h, stoull_hex_ten]

/-- `GET` cuts an integer to 32 bits, or fails for one that does not fit. -/
theorem get_integer (hconv : F.ConvertsTo32) (i : Int64) :
    LuaInt64.GET F (.number (.integer i)) = ([], .ok i.toUInt64.toUInt32.toUInt64) ∨
      LuaInt64.GET F (.number (.integer i)) = ([], .error .badCast) ∧
        ¬ (0 ≤ i.toInt ∧ i.toInt < 2 ^ 32) := by
  unfold LuaInt64.GET
  rcases hconv i with hsome | ⟨hnone, hbig⟩
  · left
    simp only [hsome]
  · right
    simp only [hnone]
    exact ⟨trivial, hbig⟩

/-- What `GET` makes of a spelling: the number if it reads the spelling, and
    something else otherwise. -/
theorem get_spelling (hconv : F.ConvertsTo32) {n : Nat} (hn : n < 2 ^ 64) {v : LuaRef}
    (hv : Spells n v) :
    (ReadsSpelling n v → LuaInt64.GET F v = ([], .ok (UInt64.ofNat n))) ∧
      (Decodes F v (UInt64.ofNat n) → ReadsSpelling n v) := by
  have hnat := toNat_ofNat hn
  cases hv with
  | int64 h =>
      refine ⟨fun _ => ?_, fun _ => trivial⟩
      rw [← h, UInt64.ofNat_toNat]
      rfl
  | decimal h =>
      refine ⟨fun _ => ?_, fun _ hhead => absurd hhead (decimal_not_hex h)⟩
      unfold LuaInt64.GET
      simp only [cStr_decimal h, stoull_numeral h hn]
  | @hex s ds hs h =>
      have hget := get_hex F hs h
      constructor
      · intro hread
        rw [hget, hread (by rw [hs]; exact ⟨_, rfl⟩)]
        rfl
      · intro hdec _
        unfold Decodes at hdec
        rw [hget] at hdec
        rw [← hnat, ← Except.ok.inj hdec]
        rfl
  | @integer i h =>
      have hlow := toNat_low32 i
      rcases get_integer F hconv i with hget | ⟨hget, hbig⟩
      · -- The cut leaves exactly the numbers below `2 ^ 32`.
        constructor
        · intro hread
          have hlt : n < 2 ^ 32 := hread
          have hval : i.toUInt64.toUInt32.toUInt64 = UInt64.ofNat n := by
            apply UInt64.toNat_inj.mp
            rw [hnat]
            omega
          rw [hget, hval]
        · intro hdec
          unfold Decodes at hdec
          rw [hget] at hdec
          have hval := congrArg UInt64.toNat (Except.ok.inj hdec)
          rw [hnat] at hval
          show n < 2 ^ 32
          omega
      · constructor
        · intro hread
          have hlt : n < 2 ^ 32 := hread
          exact absurd ⟨by omega, by omega⟩ hbig
        · intro hdec
          unfold Decodes at hdec
          rw [hget] at hdec
          simp only [reduceCtorEq] at hdec

/-- A spelling is read as the number it spells, and means the same size and
    address as the object with that number, exactly when `GET` reads it. -/
theorem readUnchanged_iff (hconv : F.ConvertsTo32) (n : Nat) (hn : n < 2 ^ 64) (v : LuaRef)
    (hv : Spells n v) : ReadUnchanged F n v ↔ ReadsSpelling n v := by
  rcases get_spelling F hconv hn hv with ⟨hread, hdec⟩
  constructor
  · intro h
    exact hdec h.get
  · intro h
    have hget : LuaInt64.GET F v = LuaInt64.GET F (.int64 (UInt64.ofNat n)) := hread h
    exact ⟨by rw [Decodes, hread h],
      fun x t addr b64 pf => (createBAR_congr F hget x t addr b64 pf).1,
      fun x t size b64 pf => (createBAR_congr F hget x t size b64 pf).2⟩

/-- Two spellings of the size and two of the address that `GET` reads make the
    same BAR. -/
theorem createBAR_spellings (hconv : F.ConvertsTo32) {n k : Nat} (hn : n < 2 ^ 64)
    (hk : k < 2 ^ 64) {v v' u u' : LuaRef} (hv : Spells n v) (hv' : Spells n v')
    (hu : Spells k u) (hu' : Spells k u') (hrv : ReadsSpelling n v) (hrv' : ReadsSpelling n v')
    (hru : ReadsSpelling k u) (hru' : ReadsSpelling k u') (x : Ctx) (t : Option String)
    (b64 pf : LuaRef) : x.createBAR F t v u b64 pf = x.createBAR F t v' u' b64 pf := by
  have hsize : LuaInt64.GET F v = LuaInt64.GET F v' :=
    ((get_spelling F hconv hn hv).1 hrv).trans ((get_spelling F hconv hn hv').1 hrv').symm
  have haddr : LuaInt64.GET F u = LuaInt64.GET F u' :=
    ((get_spelling F hconv hk hu).1 hru).trans ((get_spelling F hconv hk hu').1 hru').symm
  rw [(createBAR_congr F hsize x t u b64 pf).1, (createBAR_congr F haddr x t v' b64 pf).2]

theorem get_number (k : LuaNumber) :
    (LuaInt64.GET F (.number k)).2.toOption = (F.toUint32 k).map UInt32.toUInt64 := by
  unfold LuaInt64.GET
  simp only
  cases F.toUint32 k with
  | none => rfl
  | some u => rfl

/-- The two conversions of a Lua integer give the same address exactly when it
    fits in 32 bits, or is negative and neither gives one. -/
theorem conversions_agree_iff (h32 : F.ConvertsTo32) (h64 : F.ConvertsTo64) (i : Int64) :
    F.toUint64 (.number (.integer i)) = (F.toUint32 (.integer i)).map UInt32.toUInt64 ↔
      SameConversion F (.number (.integer i)) := by
  have hlow := toNat_low32 i
  have hfull := toNat_toUInt64 i
  have hlo := i.le_toInt
  have hhi := i.toInt_lt
  simp only [SameConversion]
  rcases h64.integer i with hcast | ⟨hcast, hneg⟩
  · rcases h32 i with hsome | ⟨hnone, hbig⟩
    · -- Both conversions give a number, and the cut one may be another.
      rw [hcast, hsome, Option.map_some, Option.some.injEq, ← UInt64.toNat_inj]
      constructor
      · intro heq
        exact ⟨by omega, fun hneg => by omega⟩
      · rintro ⟨hlt, hneg⟩
        have hnn : 0 ≤ i.toInt := by
          by_contra hlt0
          exact absurd (hneg (Int.not_le.mp hlt0)).1 (Option.some_ne_none _)
        omega
    · -- Only the one to 32 bits fails, for a number that does not fit.
      rw [hcast, hnone]
      refine iff_of_false (Option.some_ne_none _) ?_
      rintro ⟨hlt, hneg⟩
      by_cases hnn : 0 ≤ i.toInt
      · exact hbig ⟨hnn, hlt⟩
      · exact absurd (hneg (Int.not_le.mp hnn)).2 (Option.some_ne_none _)
  · rcases h32 i with hsome | ⟨hnone, _⟩
    · -- Only the one to 64 bits fails, for a negative number.
      rw [hcast, hsome]
      refine iff_of_false (Option.some_ne_none _).symm ?_
      rintro ⟨_, hboth⟩
      exact absurd (hboth hneg).1 (Option.some_ne_none _)
    · rw [hcast, hnone]
      exact iff_of_true rfl ⟨by omega, fun _ => ⟨rfl, rfl⟩⟩

/-- For an argument that is there, the operations agree exactly when the cast of
    `EnableDisplay` gives what `GET` reads. -/
theorem addressesAgree_iff_cast {v : LuaRef} (hv : v.isNil = false) :
    AddressesAgree F v ↔ F.toUint64 v = (LuaInt64.GET F v).2.toOption := by
  have hcast : ∀ s, displayAddress F s v = F.toUint64 v := by
    intro s
    unfold displayAddress
    rw [hv]
    rfl
  constructor
  · intro h
    -- A device whose system tells the addresses apart by their pointers.
    let x := step F Ctx.start (.loadSystemModule "module" (.success ISystemSim.identity))
    have hs : x.this.mpSystem = some { id := 0, sim := ISystemSim.identity } := rfl
    have hone : (1 : Int32) ≠ 0 := by decide
    have hid := h x _ 1 1 .nil hs hone hone
    rw [enableDisplay_loaded F x hs hone hone, hcast] at hid
    generalize (LuaInt64.GET F v).2 = read at hid ⊢
    cases hc : F.toUint64 v with
    | none =>
        cases read with
        | error _ => rfl
        | ok a =>
            simp only [hc, reduceCtorEq, false_and] at hid
    | some b =>
        rw [hc] at hid
        cases read with
        | error _ => exact absurd rfl hid
        | ok a =>
            have haddr : b.toNat = a.toNat := congrArg HostPtr.addr (Option.some.inj hid.2)
            exact congrArg some (UInt64.toNat_inj.mp haddr)
  · intro h x s wd ht fmt hs hw hh
    rw [enableDisplay_loaded F x hs hw hh, hcast, h]
    cases (LuaInt64.GET F v).2 with
    | error _ =>
        simp only [Except.toOption, ne_eq, reduceCtorEq, not_false_eq_true]
    | ok a => exact ⟨rfl, rfl⟩

/-- `EnableDisplay` uses the address `GET` reads exactly for the values both
    conversions are right for. -/
theorem addressesAgree_iff (h32 : F.ConvertsTo32) (h64 : F.ConvertsTo64) (v : LuaRef)
    (hv : AddressValue v) : AddressesAgree F v ↔ SameConversion F v := by
  have hnil : v.isNil = false := by
    cases hv with
    | _ => rfl
  rw [addressesAgree_iff_cast F hnil]
  cases hv with
  | int64 m =>
      refine iff_of_false (fun h => ?_) id
      rw [h64.object m] at h
      exact Option.some_ne_none m h.symm
  | @decimal str n h =>
      have hget : (LuaInt64.GET F (.string str)).2.toOption =
          if 2 ^ 64 ≤ n then none else some (UInt64.ofNat n) := by
        unfold LuaInt64.GET
        simp only [cStr_decimal h, stoull_eq h]
        split
        · rfl
        · rfl
      rw [hget]
      constructor
      · intro hagree n' h'
        -- The digits denote one number only.
        rw [← h'.value, h.value]
        exact hagree
      · intro hsame
        exact hsame n h
  | number k =>
      rw [get_number]
      cases k with
      | integer i => exact conversions_agree_iff F h32 h64 i
      | float bits => exact Iff.rfl

end Read

theorem Framework.standard_convertsTo32 : Framework.standard.ConvertsTo32 := by
  intro i
  by_cases hfit : 0 ≤ i.toInt ∧ i.toInt < 2 ^ 32
  · left
    have hword : i.toInt.toNat.toUInt32 = i.toUInt64.toUInt32 := by
      have hfull := toNat_toUInt64 i
      apply UInt32.toNat_inj.mp
      rw [UInt64.toNat_toUInt32]
      have hlt : i.toInt.toNat < 2 ^ 32 := by omega
      have hsmall : i.toInt.toNat.toUInt32.toNat = i.toInt.toNat := UInt32.toNat_ofNat_of_lt' hlt
      omega
    exact (if_pos hfit).trans (congrArg some hword)
  · exact Or.inr ⟨if_neg hfit, hfit⟩

theorem Framework.standard_convertsTo64 : Framework.standard.ConvertsTo64 :=
  ⟨fun _ => Or.inl rfl, fun _ => rfl⟩

theorem readUnchanged_page :
    ReadUnchanged Framework.standard 4096 (.number (.integer 4096)) ↔
      ReadsSpelling 4096 (.number (.integer 4096)) :=
  readUnchanged_iff Framework.standard Framework.standard_convertsTo32 4096 (by decide) _
    (.integer rfl)

/-- A bus address in hexadecimal is read as zero, which the configuration would
    read as what it is, and a Lua integer above 4 GiB is not read at all. -/
theorem hex_read_as_zero :
    Spells 0x80000000 (.string "0x80000000") ∧
      LuaInt64.GET Framework.standard (.string "0x80000000") = ([], .ok 0) ∧
      getConfigurationValue "0x80000000" 0 = .ok 0x80000000 ∧
      ¬ ReadUnchanged Framework.standard 0x80000000 (.string "0x80000000") ∧
      Spells 0x100000000 (.number (.integer 0x100000000)) ∧
      LuaInt64.GET Framework.standard (.number (.integer 0x100000000)) = ([], .error .badCast) := by
  have hall : "80000000".toList.all (fun c => (digitVal 16 c).isSome) = true := by decide
  have hdigits : Numeral 16 "80000000".toList 0x80000000 :=
    ⟨List.cons_ne_nil _ _, List.all_eq_true.mp hall, rfl⟩
  refine ⟨.hex rfl hdigits, by decide, by decide, fun h => ?_, .integer (by decide), by decide⟩
  exact absurd h.get (by unfold Decodes; decide)

theorem addressesAgree_page :
    AddressesAgree Framework.standard (.number (.integer 4096)) ↔
      SameConversion Framework.standard (.number (.integer 4096)) :=
  addressesAgree_iff Framework.standard Framework.standard_convertsTo32
    Framework.standard_convertsTo64 _ (.number _)

/-- The memory base of the loaded system, handed back to either operation: it is
    the address for `CreateBAR`, and an exception for `EnableDisplay`. -/
theorem memoryBase_not_converted :
    AddressValue (.int64 0x80000000) ∧
      (Ctx.loaded 0x80000000 0x200000).getMemoryBase.2 = 0x80000000 ∧
      Decodes Framework.standard (.int64 0x80000000) 0x80000000 ∧
      ((Ctx.loaded 0x80000000 0x200000).enableDisplay Framework.standard 640 480
        (.int64 0x80000000) .nil).2 = .error .badCast ∧
      ¬ AddressesAgree Framework.standard (.int64 0x80000000) := by
  refine ⟨.int64 _, rfl, rfl, rfl, fun h => ?_⟩
  have hok := (h (Ctx.loaded 0x80000000 0x200000) _ 640 480 .nil rfl (by decide) (by decide)).1
  exact absurd hok (by decide)

end QemuTestdrive
