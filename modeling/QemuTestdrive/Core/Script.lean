import QemuTestdrive.Core.System

/-!
# Script Operations

The operations a setup script can call on its `TestDrive`, from
`testdrive_script.cpp`. Each takes the state and returns the state it leaves
and what it returns to the script; an exception is the `error` of the result,
and the state beside it is the one the exception leaves behind.

`CreateBAR` decodes its arguments first, then asks whether the slots are left,
and only then corrects the size and looks for a direct pointer. `requestedBAR`
is the record as it stands when the slots are checked, and `finalBAR` is what
becomes of it.

The correction loop shifts its candidate until it is large enough or has
reached the top bit. The model runs it for at most 64 turns, which is more than
it takes.

## Main definitions

* `correctLoop`: The size correction loop.
* `correctedSize`: The size a BAR gets for a requested one.
* `directPointer`: The pointer to device memory a BAR gets.
* `pointerMethods`: The methods of the system that are called for it.
* `barMessages`: What is logged about a new BAR.
* `createBAR`, `enableMSI`, `enableMSIX`, `enableDisplay`: The operations.
* `ScriptCall`: A call in a script.
* `exec`: What a call does.
* `driveStep`: A script call, or the shutdown of the emulator.
-/

namespace QemuTestdrive

/-- `__address_space_type`. -/
def addressSpaceType : List String := ["io", "memory"]

/-- `__format_list` of `testdrive_display_format`. -/
def displayFormatList : List String :=
  ["A8R8G8B8", "X8R8G8B8", "A8B8G8R8", "X8B8G8R8", "B8G8R8A8", "B8G8R8X8", "R8G8B8A8",
    "R8G8B8X8", "R8G8B8", "B8G8R8", "R5G6B5", "A1R5G5B5", "X1R5G5B5"]

/-- `TESTDRIVE_DISPLAY_FORMAT_NONE`. -/
def displayFormatNone : Int := -1

/-- `TESTDRIVE_DISPLAY_FORMAT_X8R8G8B8`. -/
def displayFormatX8R8G8B8 : UInt8 := 1

/-- `testdrive_display_format`. -/
def displayFormat (F : Framework) (sFormat : String) : Int :=
  F.retrieveTag sFormat displayFormatList

/-- The size correction loop, entered with the candidate `c`. -/
def correctLoop : Nat → UInt64 → UInt64 → Option UInt64
  | 0, _, _ => none
  | fuel + 1, byteSize, c =>
      if c < byteSize ∧ c ≠ 0x8000000000000000 then correctLoop fuel byteSize (c <<< 1)
      else some c

/-- The size a BAR gets when `byteSize` is asked for. -/
def correctedSize (byteSize : UInt64) : UInt64 :=
  if byteSize = 0 then 0 else (correctLoop 64 byteSize 1).getD 0

/-- The direct pointer of a BAR of the given size at the given address. -/
def directPointer (sys : Option SimSystem) (bindAddress byteSize : UInt64) : Option HostPtr :=
  match sys with
  | some s =>
      if s.sim.memoryBase ≤ bindAddress ∧
          bindAddress + byteSize ≤ s.sim.memoryBase + s.sim.memorySize then
        s.getMemoryPointer bindAddress
      else none
  | none => none

/-- The methods of the system that the test for a direct pointer calls, as far as it
    goes. -/
def pointerMethods (s : SimSystem) (bindAddress byteSize : UInt64) : List String :=
  "GetMemoryBase" ::
    if s.sim.memoryBase ≤ bindAddress then
      "GetMemoryBase" :: "GetMemorySize" ::
        if bindAddress + byteSize ≤ s.sim.memoryBase + s.sim.memorySize then ["GetMemoryPointer"]
        else []
    else []

/-- `!v.isNil() && (bool)v`. -/
def LuaRef.flag (F : Framework) (v : LuaRef) : Bool :=
  if v.isNil then false else F.toBool v

/-- The slot the next BAR gets: the loop over `m_BARs` that adds up the slots
    in the union's `bar_id`. -/
def nextBarId (bars : AList fun _ : Nat => TestdrivePciBar) (o : BarOption) : BarOption :=
  bars.entries.foldl (fun o e => o.setBarId (o.barId + if e.2.option.b64bit then 2 else 1)) o

/-- The address space a BAR's type stands for in the message. -/
def spaceText (bar : TestdrivePciBar) : String :=
  if bar.option.barType then "memory" else "io"

/-- The messages about a BAR that has been given a slot. The alignment test
    uses the size as it was asked for. -/
def barMessages (bar : TestdrivePciBar) : List (LogMode × String) :=
  let id := toString bar.option.barId.toNat
  let size := correctedSize bar.byteSize
  [(.info, "PCIe.BAR[" ++ id ++ "] : Type(" ++ spaceText bar ++ "), size(" ++
      hexString bar.byteSize ++ ":" ++ byteString bar.byteSize ++ "), b64bit(" ++
      boolString bar.option.b64bit ++ "), bPrefetchable(" ++
      boolString bar.option.bPrefetchable ++ "), bind_address(" ++
      hexString bar.bindAddress ++ ")")] ++
    (if (bar.byteSize - 1) &&& bar.bindAddress ≠ 0 then
      [(.warning, "PCIe.BAR[" ++ id ++ "] : binding address(" ++ hexString bar.bindAddress ++
          ") must be aligned by size(" ++ hexString bar.byteSize ++ ":" ++
          byteString bar.byteSize ++ ")."),
        (.warning,
          "@0                  It can only be available on a virtual machine environment.\n")]
    else []) ++
    (if bar.byteSize ≠ size then
      [(.warning, "Incorrect BAR size value, we fix this to " ++ hexString size)]
    else [])

/-- The assignments of an accepted `EnableMSI`. -/
def setMSI (iVectorCount : Int32) (bMaskPerVector : Bool) (i : Interrupt) : Interrupt :=
  { i with
    extend := { i.extend with bEnable := false }
    vectorCount := iVectorCount.toUInt32.toUInt8
    perVectorMask := bMaskPerVector }

/-- The assignments of an accepted `EnableMSIX`. -/
def setMSIX (iVectorCount : Int32) (bMaskPerVector : Bool) (iBar offsetTable offsetPba : UInt32) :
    Interrupt :=
  { extend := { bEnable := true, iBar := iBar, offsetTable := offsetTable, offsetPba := offsetPba }
    vectorCount := iVectorCount.toUInt32.toUInt8
    perVectorMask := bMaskPerVector }

namespace Ctx

/-- `CreateBAR(nil)`. -/
def resetBARs (x : Ctx) : Ctx :=
  { x with this := { x.this with mBARs := ∅ }, param := { x.param with bar := fun _ => none } }

/-- The record `CreateBAR` has filled in when it checks for a free slot. -/
def requestedBAR (F : Framework) (iType : Int) (byteSize bindAddress : UInt64)
    (b64bit bPrefetchable : LuaRef) (x : Ctx) : TestdrivePciBar :=
  -- The one-bit field keeps the low bit of the type's index.
  let o := (⟨0⟩ : BarOption).setFlag 8 (iType % 2 == 1)
  let o := nextBarId x.this.mBARs o
  let o := (o.setFlag 9 (b64bit.flag F)).setFlag 10 (bPrefetchable.flag F)
  { TestdrivePciBar.zero with
    pTestDrive := some x.this.self, byteSize := byteSize, bindAddress := bindAddress, option := o }

/-- The record as it is stored, with its name, its corrected size and its
    direct pointer. -/
def finalBAR (bar : TestdrivePciBar) (x : Ctx) : TestdrivePciBar :=
  { bar with
    name := "testdrive_bar" ++ toString bar.option.barId.toNat
    byteSize := correctedSize bar.byteSize
    pMem := directPointer x.this.mpSystem bar.bindAddress (correctedSize bar.byteSize) }

/-- The calls of the system, if there is one, on the way to the pointer of a BAR. -/
def askPointer (bindAddress byteSize : UInt64) (x : Ctx) : Ctx :=
  match x.this.mpSystem with
  | some s => x.ask s (pointerMethods s bindAddress byteSize)
  | none => x

/-- `m_BARs[id] = bar; testdrive_param.pci.bar[id] = &m_BARs[id];` -/
def placeBAR (bar : TestdrivePciBar) (x : Ctx) : Ctx :=
  let id := bar.option.barId.toNat
  { x with
    this := { x.this with mBARs := x.this.mBARs.insert id bar }
    param := x.param.setBar id { owner := x.this.self, key := id } }

/-- The part of `CreateBAR` from the slot check on. -/
def addBAR (bar : TestdrivePciBar) (x : Ctx) : Ctx × Except CxxException Bool :=
  if 6 < bar.option.barId.toNat + bar.slots then
    (x.log .error "No more available BAR left.", .ok false)
  else
    let y := (x.logs (barMessages bar)).askPointer bar.bindAddress (correctedSize bar.byteSize)
    (y.placeBAR (x.finalBAR bar), .ok true)

/-- `TestDrive::CreateBAR`. -/
def createBAR (F : Framework) (spaceType : Option String)
    (byteSize bindAddress b64bit bPrefetchable : LuaRef) (x : Ctx) :
    Ctx × Except CxxException Bool :=
  match spaceType with
  | none => (x.resetBARs, .ok true)
  | some sType =>
      let iType := F.retrieveTag sType addressSpaceType
      if iType < 0 then (x.log .error "BAR type must be 'io' or 'memory'.", .ok false)
      else
        -- Both numbers are decoded before the slots are looked at, so a bad one throws
        -- even when no slot is left.
        match LuaInt64.GET F byteSize with
        | (ls, .error e) => (x.logs ls, .error e)
        | (ls, .ok size) =>
            match LuaInt64.GET F bindAddress with
            | (ls', .error e) => ((x.logs ls).logs ls', .error e)
            | (ls', .ok addr) =>
                ((x.logs ls).logs ls').addBAR
                  (x.requestedBAR F iType size addr b64bit bPrefetchable)

/-- Storing interrupt settings in `testdrive_param`. -/
def setInterrupt (i : Interrupt) (x : Ctx) : Ctx :=
  { x with param := { x.param with interrupt := i } }

/-- `TestDrive::EnableMSI`. -/
def enableMSI (iVectorCount : Int32) (bMaskPerVector : Bool) (x : Ctx) : Ctx × Bool :=
  let n := toString iVectorCount.toInt
  if iVectorCount < 0 ∨ 32 ≤ iVectorCount then
    (x.log .error ("PCIe.MSI count(" ++ n ++ ") is out of range (0~32)."), false)
  else
    ((x.setInterrupt (setMSI iVectorCount bMaskPerVector x.param.interrupt)).log .info
      ("PCIe.MSI count(" ++ n ++ "), Per vector mask(" ++ boolString bMaskPerVector ++ ")."), true)

/-- `TestDrive::EnableMSIX`. -/
def enableMSIX (iVectorCount : Int32) (bMaskPerVector : Bool)
    (iBar offsetTable offsetPba : UInt32) (x : Ctx) : Ctx × Bool :=
  let n := toString iVectorCount.toInt
  if 5 < iBar then
    (x.log .error ("PCIe.MSI-X out of range bar(" ++ toString iBar.toInt32.toInt ++ " : 0~5)."),
      false)
  else if (x.param.bar iBar.toNat).isNone then
    (x.log .error ("PCIe.MSI-X's BAR#" ++ toString iBar.toNat ++ " does not existed.."), false)
  else if iVectorCount < 0 ∨ 2048 ≤ iVectorCount then
    (x.log .error ("PCIe.MSI-X count(" ++ n ++ ") is out of range (0~2048)."), false)
  else
    ((x.setInterrupt (setMSIX iVectorCount bMaskPerVector iBar offsetTable offsetPba)).log .info
      ("PCIe.MSI-X count(" ++ n ++ "), Per vector mask(" ++ boolString bMaskPerVector ++ ")."), true)

/-- Replacing the display record. -/
def setDisplay (d : TestdriveDisplay) (x : Ctx) : Ctx :=
  { x with this := { x.this with display := d } }

/-- The end of `EnableDisplay`, once the format is settled: the buffer at the
    display address. -/
def bindDisplay (F : Framework) (s : SimSystem) (dispAddress : LuaRef) (d : TestdriveDisplay)
    (x : Ctx) : Ctx × Except CxxException Bool :=
  if dispAddress.isNil then
    ((x.ask s ["GetMemoryBase", "GetMemoryPointer"]).setDisplay
      { d with pBuffer := s.getMemoryPointer s.sim.memoryBase }, .ok true)
  else
    match F.toUint64 dispAddress with
    | some addr =>
        ((x.ask s ["GetMemoryPointer"]).setDisplay
          { d with pBuffer := s.getMemoryPointer addr }, .ok true)
    | none => (x.setDisplay d, .error .badCast)

/-- `TestDrive::EnableDisplay`. The format is stored in its byte before it is
    compared with the negative enumerator. -/
def enableDisplay (F : Framework) (width height : Int32) (dispAddress dispFormat : LuaRef)
    (x : Ctx) : Ctx × Except CxxException Bool :=
  if width ≠ 0 ∧ height ≠ 0 then
    match x.this.mpSystem with
    | none =>
        (x.log .warning "Can't enable display, you must load your system module first.!",
          .ok false)
    | some s =>
        -- The stride is computed from the width as it is stored.
        let w := width.toUInt32.toUInt16
        let d := { x.this.display with
          width := w, height := height.toUInt32.toUInt16, byteStride := w * 4 }
        match dispFormat with
        | .string sFormat =>
            let format := UInt8.ofInt (displayFormat F (String.ofList (cStr sFormat)))
            if (format.toNat : Int) = displayFormatNone then
              ((x.log .error "Invalid display format.").setDisplay TestdriveDisplay.zero, .ok false)
            else x.bindDisplay F s dispAddress { d with format := format }
        | _ => x.bindDisplay F s dispAddress { d with format := displayFormatX8R8G8B8 }
  else (x.setDisplay TestdriveDisplay.zero, .ok true)

end Ctx

/-- A call a setup script makes on its device. What the loader and the module
    answer to a load is part of the call. -/
inductive ScriptCall where
  | createBAR (spaceType : Option String) (byteSize bindAddress b64bit bPrefetchable : LuaRef)
  | enableMSI (iVectorCount : Int32) (bMaskPerVector : Bool)
  | enableMSIX (iVectorCount : Int32) (bMaskPerVector : Bool)
      (iBar offsetTable offsetPba : UInt32)
  | enableDisplay (width height : Int32) (dispAddress dispFormat : LuaRef)
  | loadSystemModule (sFileName : String) (outcome : LoadOutcome)
  | getDescription
  | getMemoryBase
  | getMemorySize

/-- What a call gives back to the script. `crashed` stands for a method invoked
    through a null pointer. -/
inductive CallResult where
  | returned (b : Bool)
  | int64 (m : UInt64)
  | text (s : String)
  | raised (e : CxxException)
  | crashed
  deriving DecidableEq

/-- The result of an operation that returns a truth value or throws. -/
def CallResult.ofExcept : Except CxxException Bool → CallResult
  | .ok b => .returned b
  | .error e => .raised e

/-- What a script call does to the state, and what it gives back. -/
def exec (F : Framework) (x : Ctx) : ScriptCall → Ctx × CallResult
  | .createBAR t size addr b64 pf =>
      let r := x.createBAR F t size addr b64 pf
      (r.1, .ofExcept r.2)
  | .enableMSI n mask =>
      let r := x.enableMSI n mask
      (r.1, .returned r.2)
  | .enableMSIX n mask iBar offT offP =>
      let r := x.enableMSIX n mask iBar offT offP
      (r.1, .returned r.2)
  | .enableDisplay w h addr fmt =>
      let r := x.enableDisplay F w h addr fmt
      (r.1, .ofExcept r.2)
  | .loadSystemModule file o =>
      let r := x.loadSystemModule file o
      (r.1, .returned r.2)
  | .getDescription =>
      let r := x.getDescription
      (r.1, match r.2 with
        | some s => .text s
        | none => .crashed)
  | .getMemoryBase =>
      let r := x.getMemoryBase
      (r.1, .int64 r.2)
  | .getMemorySize =>
      let r := x.getMemorySize
      (r.1, .int64 r.2)

/-- The state after a script call. -/
def step (F : Framework) (x : Ctx) (c : ScriptCall) : Ctx :=
  (exec F x c).1

/-- What happens to a device object: a script call, or the `Shutdown` of the
    emulator's exit notifier. -/
inductive DriveOp where
  | call (c : ScriptCall)
  | shutdown

/-- The state after either. -/
def driveStep (F : Framework) (x : Ctx) : DriveOp → Ctx
  | .call c => step F x c
  | .shutdown => x.shutdown

example : correctedSize 0x3000 = 0x4000 := by decide

end QemuTestdrive
