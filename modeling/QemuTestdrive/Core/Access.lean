import QemuTestdrive.Core.System
import QemuTestdrive.Lib.ByteMemory

/-!
# Guest Accesses

The callbacks QEMU makes while a guest runs: reads and writes of a BAR, and the
refresh of the display.

A BAR with a direct pointer is served by copying bytes of the system's memory.
A BAR without one passes 4-byte accesses on to the module, through the object
the BAR belongs to, and refuses the others. What the module leaves in the value
it is handed is an input, `io`. In these definitions `x.this` is the object
`pTestDrive` of the BAR points to.

## Main definitions

* `memIO`: `TestDrive::MemIO`.
* `testdriveBarRead`, `testdriveBarWrite`: The accesses of a guest.
* `testdriveDisplayUpdate`: The refresh of the display.
* `GuestAccess`: An access of a guest to a BAR.
* `runningStep`: What reaches a device after its script.
-/

namespace QemuTestdrive

/-- An access of a guest to a BAR. `io` is what the module leaves in the value
    it is handed, if it is asked. -/
inductive GuestAccess where
  | read (bar : TestdrivePciBar) (offset : UInt64) (byteSize : Nat) (io : UInt32)
  | write (bar : TestdrivePciBar) (offset val : UInt64) (byteSize : Nat) (io : UInt32)

namespace Ctx

/-- `TestDrive::MemIO`: the state, and the value afterwards. -/
def memIO (bWrite : Bool) (addr : UInt64) (val io : UInt32) (x : Ctx) : Ctx × UInt32 :=
  match x.this.mpSystem with
  | some s => (x.emit (.ioSlave s.id bWrite addr val), io)
  | none => (x, val)

/-- The text of the message about a refused access. -/
def invalidAccess (bar : TestdrivePciBar) (access : String) (offset : UInt64) (byteSize : Nat) :
    String :=
  "Invalid BAR[" ++ toString bar.option.barId.toNat ++ "] " ++ access ++ " : offset(0x" ++
    String.ofList (hexDigits offset) ++ ") size(" ++ toString byteSize ++ ")"

/-- `testdrive_bar_read`. The bytes read replace the low bytes of a value that
    starts as all ones. -/
def testdriveBarRead (bar : TestdrivePciBar) (offset : UInt64) (byteSize : Nat) (io : UInt32)
    (x : Ctx) : Ctx × UInt64 :=
  let val : UInt32 := 0xFFFFFFFF
  match bar.pMem with
  | some p =>
      -- The bytes above the ones copied are still those of the preset value.
      let src := p.add offset.toNat
      let bytes := ByteMemory.load x.world.mem src.addr byteSize
      (x.emit (.memcpy false src byteSize),
        (UInt32.ofNat (bytes + val.toNat / 256 ^ byteSize * 256 ^ byteSize)).toUInt64)
  | none =>
      if byteSize = 4 then
        let r := x.memIO false (offset + bar.bindAddress) val io
        (r.1, r.2.toUInt64)
      else (x.log .error (invalidAccess bar "read" offset byteSize), val.toUInt64)

/-- `testdrive_bar_write`. -/
def testdriveBarWrite (bar : TestdrivePciBar) (offset val : UInt64) (byteSize : Nat) (io : UInt32)
    (x : Ctx) : Ctx :=
  match bar.pMem with
  | some p =>
      let dst := p.add offset.toNat
      { x with world := { x.world with
        mem := ByteMemory.store x.world.mem dst.addr byteSize val.toNat } }.emit
          (.memcpy true dst byteSize)
  | none =>
      if byteSize = 4 then (x.memIO true (offset + bar.bindAddress) val.toUInt32 io).1
      else x.log .error (invalidAccess bar "write" offset byteSize)

/-- The part of `testdrive_display_update` that follows a surface whose size is
    not the one of the display record. -/
def resizeDisplay (width height : Int32) (x : Ctx) : Ctx :=
  let d := x.this.display
  if width.toInt ≠ d.width.toNat ∨ height.toInt ≠ d.height.toNat then
    { x with this := { x.this with display := { d with
      width := width.toUInt32.toUInt16, height := height.toUInt32.toUInt16 } } }.emit
        (.qemu (.consoleResize width.toInt height.toInt)) |>.log .info
        ("Display resolution is changed : " ++ toString width.toInt ++ "x" ++
          toString height.toInt ++ "\n")
  else x

/-- `testdrive_display_update`, on a surface of the given size. The number of
    bytes is an `int` product converted to a `size_t`. -/
def testdriveDisplayUpdate (width height : Int32) (x : Ctx) : Ctx :=
  let x := x.resizeDisplay width height
  let n := (width * height * 4).toInt64.toUInt64.toNat
  let x :=
    match x.this.display.pBuffer with
    | some p => x.emit (.memcpy false p n)
    | none => x.emit (.nullCopy n)
  x.emit (.qemu (.consoleUpdate width.toInt height.toInt))

theorem resizeDisplay_pBuffer (width height : Int32) (x : Ctx) :
    (x.resizeDisplay width height).this.display.pBuffer = x.this.display.pBuffer := by
  unfold resizeDisplay
  simp only
  split
  · rfl
  · rfl

/-- The state after an access of a guest. -/
def access (x : Ctx) : GuestAccess → Ctx
  | .read bar offset n io => (x.testdriveBarRead bar offset n io).1
  | .write bar offset val n io => x.testdriveBarWrite bar offset val n io

end Ctx

/-- What reaches a device once its script is done. -/
inductive RunningOp where
  | access (a : GuestAccess)
  | shutdown

/-- The state after it. -/
def runningStep (x : Ctx) : RunningOp → Ctx
  | .access a => x.access a
  | .shutdown => x.shutdown

end QemuTestdrive
