import Mathlib.Data.List.AList
import QemuTestdrive.Core.LuaValue
import QemuTestdrive.Lib.BitField

/-!
# Program State

The data of `testdrive_device.h`, and the state that one device operation reads
and writes: the `TestDrive` object it is called on, the process-wide
`testdrive_param`, and the world outside.

A pointer into a simulation system's memory carries the identity of the system
object whose `GetMemoryPointer` returned it. The compiled program has only the
address; the identity is what makes it possible to say that a pointer outlived
its system. System objects and libraries get their identity from counters, so
an object created later never has the identity of one released before.

`std::map` is an `AList`, which carries the fact that its keys are distinct.
The order of its entries is not observable in this program. An entry of
`pci.bar` points to a map node; the node is named by the object that owns the
map and the key. The table has a cell for every number, so that a store past
its six slots would be seen and not lost.

Everything the program does outside its own data is an `Event`, appended to the
world's trace in the order it happens.

## Main definitions

* `HostPtr`: A pointer into a system's memory.
* `BarOption`: The bit-field union of a BAR.
* `TestdrivePciBar`: A BAR.
* `TestdriveParam`: The global PCI parameters.
* `TestDrive`: The device object.
* `Event`: What the program does to its environment.
* `World`: Host memory, object counters and the trace.
* `Ctx`: The state an operation of one device works on.
-/

namespace QemuTestdrive

/-- A pointer returned by `GetMemoryPointer`: the system it came from and the
    host address. -/
structure HostPtr where
  sys : Nat
  addr : Nat
  deriving DecidableEq

/-- Pointer arithmetic in bytes. -/
def HostPtr.add (p : HostPtr) (n : Nat) : HostPtr :=
  { p with addr := p.addr + n }

/-- The `option` union of `TESTDRIVE_PCI_BAR`, as its word `m`. `bar_id` is the
    low byte, and the three flags are the bits above it. -/
structure BarOption where
  m : BitVec 32
  deriving DecidableEq

namespace BarOption

def barId (o : BarOption) : UInt8 :=
  UInt8.ofBitVec (BitField.get o.m 0 8)

def setBarId (o : BarOption) (v : UInt8) : BarOption :=
  ⟨BitField.set o.m 0 v.toBitVec⟩

/-- The one-bit field at bit `i`. -/
def flag (o : BarOption) (i : Nat) : Bool :=
  BitField.get o.m i 1 == 1#1

/-- Storing a truth value in the one-bit field at bit `i`. -/
def setFlag (o : BarOption) (i : Nat) (b : Bool) : BarOption :=
  ⟨BitField.set o.m i (BitVec.ofBool b)⟩

def barType (o : BarOption) : Bool := o.flag 8

def b64bit (o : BarOption) : Bool := o.flag 9

def bPrefetchable (o : BarOption) : Bool := o.flag 10

@[simp] theorem barId_setBarId (o : BarOption) (v : UInt8) : (o.setBarId v).barId = v := by
  simp only [barId, setBarId]
  rw [BitField.get_set_self o.m 0 v.toBitVec (by omega)]

theorem flag_setBarId (o : BarOption) (v : UInt8) (i : Nat) (h8 : 8 ≤ i) (h32 : i < 32) :
    (o.setBarId v).flag i = o.flag i := by
  simp only [flag, setBarId]
  rw [BitField.get_set_disjoint o.m 0 i v.toBitVec (by omega) (by omega)]

theorem barId_setFlag (o : BarOption) (i : Nat) (b : Bool) (h8 : 8 ≤ i) :
    (o.setFlag i b).barId = o.barId := by
  simp only [barId, setFlag]
  rw [BitField.get_set_disjoint o.m i 0 (BitVec.ofBool b) (by omega) (by omega)]

theorem flag_setFlag_self (o : BarOption) (i : Nat) (b : Bool) (h32 : i < 32) :
    (o.setFlag i b).flag i = b := by
  simp only [flag, setFlag]
  rw [BitField.get_set_self o.m i (BitVec.ofBool b) (by omega)]
  cases b <;> rfl

theorem flag_setFlag_other (o : BarOption) (i j : Nat) (b : Bool) (hne : i ≠ j)
    (h32 : j < 32) : (o.setFlag i b).flag j = o.flag j := by
  simp only [flag, setFlag]
  rw [BitField.get_set_disjoint o.m i j (BitVec.ofBool b) (by omega) (by omega)]

end BarOption

/-- `TESTDRIVE_PCI_BAR`. `pTestDrive` is the identity of the owning object. -/
structure TestdrivePciBar where
  pTestDrive : Option Nat
  byteSize : UInt64
  bindAddress : UInt64
  pMem : Option HostPtr
  name : String
  option : BarOption
  deriving DecidableEq

/-- `TESTDRIVE_PCI_BAR bar = {0}`. -/
def TestdrivePciBar.zero : TestdrivePciBar :=
  { pTestDrive := none, byteSize := 0, bindAddress := 0, pMem := none, name := "", option := ⟨0⟩ }

/-- The number of BAR slots a BAR takes. -/
def TestdrivePciBar.slots (bar : TestdrivePciBar) : Nat :=
  if bar.option.b64bit then 2 else 1

/-- `TESTDRIVE_DISPLAY`. -/
structure TestdriveDisplay where
  pBuffer : Option HostPtr
  width : UInt16
  height : UInt16
  byteStride : UInt16
  format : UInt8
  deriving DecidableEq

/-- `memset(&display, 0, sizeof(TESTDRIVE_DISPLAY))`. -/
def TestdriveDisplay.zero : TestdriveDisplay :=
  { pBuffer := none, width := 0, height := 0, byteStride := 0, format := 0 }

/-- The `extend` part of the interrupt settings, for MSI-X. -/
structure InterruptExtend where
  bEnable : Bool
  iBar : UInt32
  offsetTable : UInt32
  offsetPba : UInt32
  deriving DecidableEq

/-- `testdrive_param.pci.interrupt`. -/
structure Interrupt where
  vectorCount : UInt8
  perVectorMask : Bool
  extend : InterruptExtend
  deriving DecidableEq

/-- The zero-initialised interrupt settings. -/
def Interrupt.zero : Interrupt :=
  { vectorCount := 0, perVectorMask := false
    extend := { bEnable := false, iBar := 0, offsetTable := 0, offsetPba := 0 } }

/-- A pointer to the map node with key `key` of the object `owner`. -/
structure BarPtr where
  owner : Nat
  key : Nat
  deriving DecidableEq

/-- `TESTDRIVE_PARAM`, the settings the modelled functions use. -/
structure TestdriveParam where
  bar : Nat → Option BarPtr
  interrupt : Interrupt

/-- Storing a node's address in the BAR table. -/
def TestdriveParam.setBar (t : TestdriveParam) (i : Nat) (p : BarPtr) : TestdriveParam :=
  { t with bar := fun j => if j = i then some p else t.bar j }

/-- `TESTDRIVE_PARAM testdrive_param = {0}`. -/
def TestdriveParam.zero : TestdriveParam :=
  { bar := fun _ => none, interrupt := Interrupt.zero }

/-- What a simulation module implements: its description, its memory window,
    and the host address of a device address. -/
structure ISystemSim where
  description : String
  memoryBase : UInt64
  memorySize : UInt64
  memoryPointer : UInt64 → Option Nat

/-- A module with one block of memory, at the host address `host`, that answers
    a null pointer outside of it. -/
def ISystemSim.flat (memoryBase memorySize : UInt64) (host : Nat) : ISystemSim where
  description := ""
  memoryBase := memoryBase
  memorySize := memorySize
  memoryPointer addr :=
    if memoryBase.toNat ≤ addr.toNat ∧ addr.toNat < memoryBase.toNat + memorySize.toNat then
      some (host + (addr.toNat - memoryBase.toNat))
    else none

/-- A system object: its identity and its implementation. -/
structure SimSystem where
  id : Nat
  sim : ISystemSim

/-- `GetMemoryPointer` of a system object. -/
def SimSystem.getMemoryPointer (s : SimSystem) (addr : UInt64) : Option HostPtr :=
  (s.sim.memoryPointer addr).map fun a => { sys := s.id, addr := a }

/-- `class TestDrive`. `self` is the object's own address and `mpdev` its PCI
    device. -/
structure TestDrive where
  self : Nat
  mpdev : Nat
  display : TestdriveDisplay
  mhSystemImpModule : Option Nat
  mpSystem : Option SimSystem
  mBARs : AList fun _ : Nat => TestdrivePciBar

/-- The fields the constructor sets. -/
def TestDrive.new (self mpdev : Nat) : TestDrive :=
  { self := self, mpdev := mpdev, display := TestdriveDisplay.zero, mhSystemImpModule := none
    mpSystem := none, mBARs := ∅ }

/-- The function `testdrive_interrupt_notify` points to. -/
inductive NotifyFn where
  | msiNotify
  | msixNotify
  deriving DecidableEq

/-- The calls the device makes into QEMU. Regions are named by their index in
    `dev->mem`; `danglingBar` is the read of a BAR record that is gone. The pixel
    format of a surface is absent when it is read past the end of its table. -/
inductive QemuCall where
  | memoryRegionInitIo (region : Nat) (opaqueBar : BarPtr) (name : String) (size : UInt64)
  | pciRegisterBar (region : Nat) (attr : UInt8) (size : UInt64)
  | msiInit (offset : UInt8) (nrVectors : Nat) (msi64bit perVectorMask : Bool)
  | msixInit (nentries : Nat) (iBar tableOffset pbaOffset : UInt32)
  | msiUninit
  | msixUninit (iBar : UInt32)
  | danglingBar (p : BarPtr)
  | setBusMaster
  | graphicConsoleCreate
  | consoleResize (width height : Int)
  | createDisplaysurfaceFrom (width height : Int) (format : Option String) (stride : Nat)
      (buffer : HostPtr)
  | consoleSetSurface
  | consoleUpdate (width height : Int)
  deriving DecidableEq

/-- What the program does to its environment. `systemCall` is a method of a system
    that has no event of its own, `memcpy` an access to the host memory of a system,
    `nullCopy` one through a null pointer, and `nullCall` a method invoked through a
    null `m_pSystem`. -/
inductive Event where
  | log (mode : LogMode) (text : String)
  | loadLibrary (file : String) (handle : Option Nat)
  | freeLibrary (handle : Nat)
  | createSystem (library sys : Nat)
  | initializeSimulation (sys : Nat) (ok : Bool)
  | registerInterruptService (sys pdev : Nat)
  | enableInterrupt (sys : Nat) (bEnable : Bool)
  | systemCall (sys : Nat) (method : String)
  | release (sys : Nat)
  | nullCall (method : String)
  | ioSlave (sys : Nat) (bWrite : Bool) (addr : UInt64) (val : UInt32)
  | memcpy (bWrite : Bool) (p : HostPtr) (n : Nat)
  | nullCopy (n : Nat)
  | interruptNotify (fn : NotifyFn) (pdev : Nat) (iVector : UInt32)
  | qemu (call : QemuCall)

/-- Host memory, the libraries and systems made so far, and the trace. -/
structure World where
  mem : Nat → UInt8
  libraries : Nat
  systems : Nat
  trace : List Event

/-- The world when the emulator starts. -/
def World.start : World :=
  { mem := fun _ => 0, libraries := 0, systems := 0, trace := [] }

def World.emit (w : World) (e : Event) : World :=
  { w with trace := w.trace ++ [e] }

/-- The state an operation of one device works on. -/
structure Ctx where
  this : TestDrive
  param : TestdriveParam
  world : World

/-- The first device of a process, before its script runs. -/
def Ctx.start : Ctx :=
  { this := TestDrive.new 0 0, param := TestdriveParam.zero, world := World.start }

namespace Ctx

def emit (x : Ctx) (e : Event) : Ctx :=
  { x with world := x.world.emit e }

def log (x : Ctx) (mode : LogMode) (text : String) : Ctx :=
  x.emit (.log mode text)

/-- The messages a decoding left behind. -/
def logs (x : Ctx) : List (LogMode × String) → Ctx
  | [] => x
  | (mode, text) :: ls => (x.log mode text).logs ls

/-- Methods of the system `s` are called. -/
def ask (x : Ctx) (s : SimSystem) (methods : List String) : Ctx :=
  { x with world := { x.world with trace := x.world.trace ++ methods.map (.systemCall s.id) } }

/-- The map node a table entry points to, when it belongs to this device. -/
def deref (x : Ctx) (p : BarPtr) : Option TestdrivePciBar :=
  if p.owner = x.this.self then x.this.mBARs.lookup p.key else none

@[simp] theorem emit_this (x : Ctx) (e : Event) : (x.emit e).this = x.this := rfl

end Ctx

end QemuTestdrive
