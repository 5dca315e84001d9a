import QemuTestdrive.Core.Device

/-!
# The Life of a Device

One device from its construction to its destruction, in the steps between which
a simulation module can act. `Process` takes a whole `device_realize` as one
step, which is right for everything that is decided between the calls of QEMU.
A module raises interrupts on its own account, from the moment `EnableInterrupt`
is called on it, so here each script call, the request for the simulation script,
the BAR setup and the interrupt setup are steps of their own, and so are the two
halves of `device_exit`.

The steps come in one order, which `Phase` keeps. A step that is not due does
nothing. Only two things can happen at any time: the exit notifier, once it has
been added, and an interrupt, as long as a system is loaded.

## Main definitions

* `Phase`: How far the life of a device has come.
* `Life`: The device with its phase and QEMU's mechanism.
* `LifeOp`: A step of its life, or an interrupt.
* `lifeStep`: The effect of a step.
-/

namespace QemuTestdrive

/-- How far the life of a device has come: its script runs, its BARs are set up,
    it is realized, its realize has failed, its mechanism is undone, its object
    is destroyed. `initOk` is whether QEMU could initialise the mechanism. -/
inductive Phase where
  | creating
  | mapped
  | realized (initOk : Bool)
  | failed
  | exiting
  | destroyed
  deriving DecidableEq

/-- A device in the course of its life. -/
structure Life where
  ctx : Ctx
  mechanism : Mechanism
  notify : NotifyFn
  phase : Phase

/-- The device before its script runs. -/
def Life.start (self mpdev : Nat) (param : TestdriveParam) (w : World) (notify : NotifyFn) : Life :=
  { ctx := { this := TestDrive.new self mpdev, param := param, world := w }
    mechanism := .none, notify := notify, phase := .creating }

/-- What happens in the life of a device. -/
inductive LifeOp where
  | call (c : ScriptCall)
  | simulationScript
  | setupBARs
  | setupInterrupt (initOk : Bool)
  | undoInterrupt
  | destroy
  | shutdown
  | raise (iVector : Int32)

namespace Ctx

/-- Calls into QEMU. -/
def qemu (x : Ctx) (calls : List QemuCall) : Ctx :=
  calls.foldl (fun x call => x.emit (.qemu call)) x

/-- `__ISR__`, with the function `testdrive_interrupt_notify` points to. The
    vector number becomes unsigned on the way. -/
def isr (x : Ctx) (notify : NotifyFn) (iVector : Int32) : Ctx :=
  x.emit (.interruptNotify notify x.this.mpdev iVector.toUInt32)

theorem qemu_eq (x : Ctx) (calls : List QemuCall) :
    x.qemu calls =
      { x with world := { x.world with trace := x.world.trace ++ calls.map Event.qemu } } := by
  unfold qemu
  induction calls generalizing x with
  | nil => rw [List.map_nil, List.append_nil]; rfl
  | cons call calls ih =>
      rw [List.foldl_cons, ih, List.map_cons]
      simp only [emit, World.emit, List.append_assoc, List.cons_append, List.nil_append]

end Ctx

/-- The interrupt setup of `device_realize`, and what follows it. -/
def Life.setupInterrupt (l : Life) (initOk : Bool) : Life :=
  let i := l.ctx.param.interrupt
  let x := l.ctx.qemu (interruptCalls i)
  let k := { l with ctx := x.qemu (finishCalls x.this.display), phase := .realized initOk }
  match i.mechanism with
  | .none => k
  | .msi n => if initOk then { k with mechanism := .msi n } else k
  | .msix n iBar =>
      if initOk then { k with mechanism := .msix n iBar, notify := .msixNotify }
      else { l with ctx := x, phase := .failed }

/-- The first half of `device_exit`. -/
def Life.undoInterrupt (l : Life) : Life :=
  { l with
    ctx := l.ctx.qemu (uninitCalls l.ctx.param.interrupt), mechanism := .none, phase := .exiting }

/-- The effect of a step. The exit notifier is there from the end of the script
    until the object is destroyed, and interrupts are enabled while a system is
    loaded. -/
def lifeStep (F : Framework) (l : Life) : LifeOp → Life
  | .call c => if l.phase = .creating then { l with ctx := step F l.ctx c } else l
  | .simulationScript =>
      if l.phase = .creating then { l with ctx := l.ctx.simulationScript.1 } else l
  | .setupBARs =>
      if l.phase = .creating then
        { l with ctx := l.ctx.qemu (setupBARs l.ctx.deref l.ctx.param), phase := .mapped }
      else l
  | .setupInterrupt initOk => if l.phase = .mapped then l.setupInterrupt initOk else l
  | .undoInterrupt =>
      match l.phase with
      | .realized _ => l.undoInterrupt
      | _ => l
  | .destroy =>
      if l.phase = .exiting then { l with ctx := l.ctx.destructor, phase := .destroyed } else l
  | .shutdown =>
      if l.phase = .creating ∨ l.phase = .destroyed then l else { l with ctx := l.ctx.shutdown }
  | .raise iVector =>
      if l.ctx.this.mpSystem.isSome then { l with ctx := l.ctx.isr l.notify iVector } else l

end QemuTestdrive
