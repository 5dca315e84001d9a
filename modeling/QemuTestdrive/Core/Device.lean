import QemuTestdrive.Core.RunScript

/-!
# Devices

`device_realize` and `device_exit` of `testdrive.c`, over the state of the whole
process: the `TestDrive` objects that are alive, the devices that are realized,
and the globals every device shares.

Realizing a device constructs its object, which runs the scripts, then walks the
global BAR table, and then sets up the interrupt mechanism the global parameters
ask for. QEMU runs all of it in one call, so it is one step here. Whether
`msi_init` or `msix_init` succeeds is an input of the step. Only the failure of the
second is looked at.

A script that fails ends the process with `exit(1)`, and one that calls through a
null `m_pSystem` crashes it. Nothing of `device_realize` follows then, and nothing
else happens to the devices of the process.

A realized device remembers the mechanism QEMU has initialised for it. That is
QEMU's state and not the program's: `device_exit` does not consult it.

## Main definitions

* `setupBARs`: The calls of the BAR loop of `device_realize`.
* `interruptCalls`: The calls that set up the interrupt mechanism.
* `uninitCalls`: The calls of `device_exit` that undo it.
* `finishCalls`: The calls at the end of `device_realize`.
* `Process`: The state of the process.
* `Process.constructed`, `Process.created`: The state after the scripts.
* `Process.Starts`: A realize whose scripts come through.
* `deviceRealize`, `deviceExit`: The operations.
* `emulatorExit`: The exit notifiers at the end of the process.
* `deviceStep`: Either of them.
-/

namespace QemuTestdrive

/-- The attributes `device_realize` registers a BAR with:
    `PCI_BASE_ADDRESS_SPACE_IO` is 1, `PCI_BASE_ADDRESS_MEM_TYPE_64` is 4 and
    `PCI_BASE_ADDRESS_MEM_PREFETCH` is 8. -/
def barAttr (bar : TestdrivePciBar) : UInt8 :=
  let attr : UInt8 := if bar.option.barType then 0 else 1
  let attr := if bar.option.b64bit then attr ||| 4 else attr
  if bar.option.bPrefetchable then attr ||| 8 else attr

/-- The calls that initialise and register the BAR `bar`, found at `p`. -/
def barCalls (p : BarPtr) (bar : TestdrivePciBar) : List QemuCall :=
  [.memoryRegionInitIo bar.option.barId.toNat p bar.name bar.byteSize,
    .pciRegisterBar bar.option.barId.toNat (barAttr bar) bar.byteSize]

/-- One turn of the BAR loop, for a table entry. -/
def setupBAR (deref : BarPtr → Option TestdrivePciBar) : Option BarPtr → List QemuCall
  | none => []
  | some p =>
      match deref p with
      | none => [.danglingBar p]
      | some bar => barCalls p bar

/-- The BAR loop of `device_realize`. -/
def setupBARs (deref : BarPtr → Option TestdrivePciBar) (t : TestdriveParam) : List QemuCall :=
  (List.range 6).flatMap fun i => setupBAR deref (t.bar i)

/-- The call of `device_realize` that sets up MSI or MSI-X. -/
def interruptCalls (i : Interrupt) : List QemuCall :=
  if i.vectorCount ≠ 0 then
    if i.extend.bEnable then
      [.msixInit i.vectorCount.toNat i.extend.iBar i.extend.offsetTable i.extend.offsetPba]
    else [.msiInit 0x50 i.vectorCount.toNat true i.perVectorMask]
  else []

/-- The call of `device_exit` that undoes MSI or MSI-X. -/
def uninitCalls (i : Interrupt) : List QemuCall :=
  if i.vectorCount ≠ 0 then
    if i.extend.bEnable then [.msixUninit i.extend.iBar] else [.msiUninit]
  else []

/-- `g_TESTDRIVE_DISPLAY_FORMAT2PIXMAN`. -/
def displayFormat2Pixman : List String :=
  ["PIXMAN_a8r8g8b8", "PIXMAN_x8r8g8b8", "PIXMAN_a8b8g8r8", "PIXMAN_x8b8g8r8",
    "PIXMAN_b8g8r8a8", "PIXMAN_b8g8r8x8", "PIXMAN_r8g8b8a8", "PIXMAN_r8g8b8x8", "PIXMAN_r8g8b8",
    "PIXMAN_b8g8r8", "PIXMAN_r5g6b5", "PIXMAN_a1r5g5b5", "PIXMAN_x1r5g5b5"]

/-- The calls of `device_realize` that make the display, if it has a buffer. -/
def displayCalls (d : TestdriveDisplay) : List QemuCall :=
  match d.pBuffer with
  | none => []
  | some p =>
      [.graphicConsoleCreate, .consoleResize d.width.toNat d.height.toNat,
        .createDisplaysurfaceFrom d.width.toNat d.height.toNat
          displayFormat2Pixman[d.format.toNat]? d.byteStride.toNat p,
        .consoleSetSurface]

/-- The calls of `device_realize` after the interrupt setup. -/
def finishCalls (d : TestdriveDisplay) : List QemuCall :=
  .setBusMaster :: displayCalls d

/-- The interrupt mechanism of a PCI device. -/
inductive Mechanism where
  | none
  | msi (count : Nat)
  | msix (count : Nat) (iBar : UInt32)
  deriving DecidableEq

/-- The mechanism an interrupt setting selects. -/
def Interrupt.mechanism (i : Interrupt) : Mechanism :=
  if i.vectorCount ≠ 0 then
    if i.extend.bEnable then .msix i.vectorCount.toNat i.extend.iBar
    else .msi i.vectorCount.toNat
  else .none

/-- A realized `TESTDRIVE_DEVICE`, with the mechanism QEMU initialised for it. -/
structure Device where
  pTestDrive : Nat
  mechanism : Mechanism

/-- The state of the process. `objects` counts the `TestDrive` objects made, and
    `ended` is how a constructor has ended the process, if one has. -/
structure Process where
  drives : Nat → Option TestDrive
  devices : Nat → Option Device
  exitNotifiers : List Nat
  objects : Nat
  notify : NotifyFn
  param : TestdriveParam
  world : World
  ended : Option ProcessEnd

namespace Process

/-- The process before any device. -/
def start : Process :=
  { drives := fun _ => none, devices := fun _ => none, exitNotifiers := [], objects := 0
    notify := .msiNotify, param := TestdriveParam.zero, world := World.start, ended := none }

def emit (p : Process) (e : Event) : Process :=
  { p with world := p.world.emit e }

def qemu (p : Process) (calls : List QemuCall) : Process :=
  calls.foldl (fun p call => p.emit (.qemu call)) p

def setDrive (p : Process) (t : Nat) (o : Option TestDrive) : Process :=
  { p with drives := fun i => if i = t then o else p.drives i }

def setDevice (p : Process) (d : Nat) (o : Option Device) : Process :=
  { p with devices := fun i => if i = d then o else p.devices i }

/-- The BAR record a pointer of the table leads to, while its owner is alive. -/
def deref (p : Process) (b : BarPtr) : Option TestdrivePciBar :=
  (p.drives b.owner).bind fun t => t.mBARs.lookup b.key

/-- The state the scripts of a new device run in. -/
def scriptStart (p : Process) (d : Nat) : Ctx :=
  { this := TestDrive.new p.objects d, param := p.param, world := p.world }

/-- The state in which the scripts of a new device have been run. -/
def constructed (F : Framework) (p : Process) (d : Nat) (script : Option SetupScript) : Process :=
  let x := (construct F script (p.scriptStart d)).1
  { (p.setDrive p.objects (some x.this)) with
    param := x.param, world := x.world, objects := p.objects + 1 }

/-- The state in which `device_realize` reads the global parameters:
    `testdrive_create` has returned, and the exit notifier is added. -/
def created (F : Framework) (p : Process) (d : Nat) (script : Option SetupScript) : Process :=
  { p.constructed F d script with exitNotifiers := p.exitNotifiers ++ [d] }

/-- The display record of the object `t`. -/
def display (p : Process) (t : Nat) : TestdriveDisplay :=
  (p.drives t).elim TestdriveDisplay.zero TestDrive.display

/-- `device_realize` from the BAR loop on, for the object `t`. -/
def setup (p : Process) (d t : Nat) (initOk : Bool) : Process :=
  let i := p.param.interrupt
  let q := p.qemu (setupBARs p.deref p.param ++ interruptCalls i)
  let r := q.qemu (finishCalls (q.display t))
  match i.mechanism with
  | .none => r.setDevice d (some { pTestDrive := t, mechanism := .none })
  | .msi n =>
      -- The result of `msi_init` is not looked at.
      r.setDevice d (some { pTestDrive := t, mechanism := if initOk then .msi n else .none })
  | .msix n iBar =>
      if initOk then
        { (r.setDevice d (some { pTestDrive := t, mechanism := .msix n iBar })) with
          notify := .msixNotify }
      else
        -- The error return: nothing after the interrupt setup is done.
        q

/-- `device_realize`. -/
def deviceRealize (F : Framework) (d : Nat) (script : Option SetupScript) (initOk : Bool)
    (p : Process) : Process :=
  match (construct F script (p.scriptStart d)).2.fate with
  | none => (p.created F d script).setup d p.objects initOk
  | some f => { p.constructed F d script with ended := some f }

/-- In a process that runs, a realize of the device `d` gets past its scripts. -/
structure Starts (F : Framework) (p : Process) (d : Nat) (script : Option SetupScript) : Prop where
  running : p.ended = none
  unrealized : p.devices d = none
  through : (construct F script (p.scriptStart d)).2 = .returned true

/-- `device_exit` of a realized device. -/
def deviceExit (d : Nat) (dev : Device) (p : Process) : Process :=
  -- The parameters are read again, as they are now.
  let q := p.qemu (uninitCalls p.param.interrupt)
  match q.drives dev.pTestDrive with
  | some t =>
      let x := ({ this := t, param := q.param, world := q.world } : Ctx).destructor
      ({ q with world := x.world }.setDrive dev.pTestDrive none).setDevice d none
  | none => q.setDevice d none

/-- `__qemu_shutdown_callback`, on the notifier of the device `d`. There is no
    result when the device is not realized: its object may be freed by then. -/
def shutdownCallback (p : Process) (d : Nat) : Option Process :=
  match p.devices d with
  | none => none
  | some dev =>
      match p.drives dev.pTestDrive with
      | none => some p
      | some t =>
          let x := ({ this := t, param := p.param, world := p.world } : Ctx).shutdown
          some { (p.setDrive dev.pTestDrive (some x.this)) with world := x.world }

/-- The exit of the emulator, which runs every exit notifier. The `exit(1)` of a
    constructor leads here as well, an abort and a crash do not. -/
def emulatorExit (p : Process) : Option Process :=
  p.exitNotifiers.foldlM shutdownCallback p

/-- Calls into QEMU change the trace and nothing else. -/
theorem qemu_eq (p : Process) (calls : List QemuCall) :
    p.qemu calls =
      { p with world := { p.world with trace := p.world.trace ++ calls.map Event.qemu } } := by
  unfold qemu
  induction calls generalizing p with
  | nil => rw [List.map_nil, List.append_nil]; rfl
  | cons call calls ih =>
      rw [List.foldl_cons, ih, List.map_cons]
      simp only [emit, World.emit, List.append_assoc, List.cons_append, List.nil_append]

/-- Setting up the device leaves the parameters, the objects and the notifiers
    alone. -/
theorem setup_spec (p : Process) (d t : Nat) (initOk : Bool) :
    (p.setup d t initOk).param = p.param ∧ (p.setup d t initOk).objects = p.objects ∧
      (p.setup d t initOk).drives = p.drives ∧
      (p.setup d t initOk).exitNotifiers = p.exitNotifiers := by
  unfold setup
  simp only [qemu_eq, setDevice]
  cases p.param.interrupt.mechanism with
  | none => exact ⟨rfl, rfl, rfl, rfl⟩
  | msi n => exact ⟨rfl, rfl, rfl, rfl⟩
  | msix n iBar =>
      cases initOk with
      | true => exact ⟨rfl, rfl, rfl, rfl⟩
      | false => exact ⟨rfl, rfl, rfl, rfl⟩

theorem setup_ended (p : Process) (d t : Nat) (initOk : Bool) :
    (p.setup d t initOk).ended = p.ended := by
  unfold setup
  simp only [qemu_eq, setDevice]
  cases p.param.interrupt.mechanism with
  | none => rfl
  | msi n => rfl
  | msix n iBar =>
      cases initOk with
      | true => rfl
      | false => rfl

/-- An exit takes one device away and leaves the shared state alone. -/
theorem deviceExit_spec (p : Process) (d : Nat) (dev : Device) :
    (∀ e, (p.deviceExit d dev).devices e = if e = d then none else p.devices e) ∧
      (p.deviceExit d dev).notify = p.notify ∧ (p.deviceExit d dev).param = p.param ∧
      (p.deviceExit d dev).objects = p.objects := by
  unfold deviceExit
  simp only [qemu_eq]
  cases p.drives dev.pTestDrive with
  | none => exact ⟨fun _ => rfl, rfl, rfl, rfl⟩
  | some t => exact ⟨fun _ => rfl, rfl, rfl, rfl⟩

end Process

/-- What QEMU does with devices. -/
inductive DeviceOp where
  | realize (d : Nat) (script : Option SetupScript) (initOk : Bool)
  | exit (d : Nat)

/-- The effect of a device operation, while the process runs. QEMU realizes a device
    that is not realized, and unplugs one that is. -/
def deviceStep (F : Framework) (p : Process) (op : DeviceOp) : Process :=
  match p.ended with
  | some _ => p
  | none =>
      match op with
      | .realize d script initOk =>
          match p.devices d with
          | some _ => p
          | none => p.deviceRealize F d script initOk
      | .exit d =>
          match p.devices d with
          | some dev => p.deviceExit d dev
          | none => p

end QemuTestdrive
