import QemuTestdrive.Core.Access
import QemuTestdrive.Core.Device

/-!
# The Running Emulator

A process with everything QEMU does to its devices: it realizes and unplugs them,
it passes on the accesses of the guests, and it refreshes their displays.

An access reaches the object its BAR points to, and a refresh the object of its
device. Both run on the whole state of the process, of which they change one
object and the world.

## Main definitions

* `Process.onDrive`: An operation on one object of the process.
* `EmulatorOp`: What QEMU does.
* `emulatorStep`: Its effect.
-/

namespace QemuTestdrive

/-- An operation on the object `t`, if it is there. -/
def Process.onDrive (p : Process) (t : Nat) (f : Ctx → Ctx) : Process :=
  match p.drives t with
  | some o =>
      let x := f { this := o, param := p.param, world := p.world }
      { (p.setDrive t (some x.this)) with param := x.param, world := x.world }
  | none => p

/-- What QEMU does while it runs. -/
inductive EmulatorOp where
  | device (op : DeviceOp)
  | access (t : Nat) (a : GuestAccess)
  | displayUpdate (d : Nat) (width height : Int32)

/-- The state after it. Nothing happens once the process has ended. -/
def emulatorStep (F : Framework) (p : Process) (op : EmulatorOp) : Process :=
  match p.ended with
  | some _ => p
  | none =>
      match op with
      | .device op => deviceStep F p op
      | .access t a => p.onDrive t fun x => x.access a
      | .displayUpdate d width height =>
          match p.devices d with
          | some dev => p.onDrive dev.pTestDrive (Ctx.testdriveDisplayUpdate width height)
          | none => p

theorem emulatorStep_device (F : Framework) (p : Process) (op : DeviceOp) :
    emulatorStep F p (.device op) = deviceStep F p op := by
  unfold emulatorStep deviceStep
  cases p.ended with
  | none => rfl
  | some f => rfl

end QemuTestdrive
