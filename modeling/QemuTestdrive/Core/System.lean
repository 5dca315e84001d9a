import QemuTestdrive.Core.State

/-!
# The Simulation System

The operations of `TestDrive` on the simulation module: loading and releasing
it, and asking it for its description and its memory window.

What the operating system and the module answer is an input. `LoadOutcome`
names the five ways through `LoadSystemModule`, so a result that quantifies
over outcomes covers every behaviour of the loader and of the module.

## Main definitions

* `LoadOutcome`: How loading a module goes.
* `loadSystemModule`: `TestDrive::LoadSystemModule`.
* `shutdown`: `TestDrive::Shutdown`.
* `destructor`: `TestDrive::~TestDrive`.
* `getDescription`, `getMemoryBase`, `getMemorySize`: The queries of a script.
-/

namespace QemuTestdrive

/-- What `LoadLibrary`, `GetProcAddress`, `CreateSimulationImplementation` and
    `InitializeSimulation` answer. -/
inductive LoadOutcome where
  | noLibrary
  | noEntry
  | noSystem
  | initFails (sim : ISystemSim)
  | success (sim : ISystemSim)

namespace Ctx

/-- `SAFE_RELEASE(m_pSystem)`. -/
def safeRelease (x : Ctx) : Ctx :=
  match x.this.mpSystem with
  | some s => { x with this := { x.this with mpSystem := none } }.emit (.release s.id)
  | none => x

/-- `FreeLibrary` on the held module, if there is one. -/
def freeModule (x : Ctx) : Ctx :=
  match x.this.mhSystemImpModule with
  | some h => { x with this := { x.this with mhSystemImpModule := none } }.emit (.freeLibrary h)
  | none => x

/-- A successful `LoadLibrary`. -/
def openLibrary (x : Ctx) (file : String) : Ctx :=
  { x with
    this := { x.this with mhSystemImpModule := some x.world.libraries }
    world := { x.world with libraries := x.world.libraries + 1 } }.emit
      (.loadLibrary file (some x.world.libraries))

/-- A successful `CreateSimulationImplementation` from the library `lib`. -/
def createSystem (x : Ctx) (lib : Nat) (sim : ISystemSim) : Ctx :=
  { x with
    this := { x.this with mpSystem := some { id := x.world.systems, sim := sim } }
    world := { x.world with systems := x.world.systems + 1 } }.emit
      (.createSystem lib x.world.systems)

/-- `TestDrive::LoadSystemModule`. -/
def loadSystemModule (sFileName : String) (o : LoadOutcome) (x : Ctx) : Ctx × Bool :=
  let x := x.safeRelease.freeModule
  let lib := x.world.libraries
  let sys := x.world.systems
  match o with
  | .noLibrary =>
      ((x.emit (.loadLibrary sFileName none)).log .error
        ("Can't open simulation module : " ++ sFileName), false)
  | .noEntry =>
      -- From here on the library is held, and a failure does not free it.
      ((x.openLibrary sFileName).log .error
        "Can't find TestDrive simulation creation implementation.", false)
  | .noSystem =>
      ((x.openLibrary sFileName).log .error "Can't create simulation sub-system.", false)
  | .initFails sim =>
      let x := (x.openLibrary sFileName).createSystem lib sim
      -- The new system is released before the message.
      let x := (x.emit (.initializeSimulation sys false)).safeRelease
      (x.log .error "Can't initialize TestDrive simulation system.", false)
  | .success sim =>
      let x := (x.openLibrary sFileName).createSystem lib sim
      let x := x.emit (.initializeSimulation sys true)
      let x := x.emit (.registerInterruptService sys x.this.mpdev)
      (x.emit (.enableInterrupt sys true), true)

/-- `TestDrive::Shutdown`. -/
def shutdown (x : Ctx) : Ctx :=
  if x.this.mpSystem.isSome then x.safeRelease else x

/-- `TestDrive::~TestDrive`. -/
def destructor (x : Ctx) : Ctx :=
  x.safeRelease.freeModule

/-- `TestDrive::GetDescription`, which does not look whether a system is
    loaded. -/
def getDescription (x : Ctx) : Ctx × Option String :=
  match x.this.mpSystem with
  | some s => (x.ask s ["GetDescription"], some s.sim.description)
  | none => (x.emit (.nullCall "GetDescription"), none)

/-- `TestDrive::GetMemoryBase`. -/
def getMemoryBase (x : Ctx) : Ctx × UInt64 :=
  match x.this.mpSystem with
  | some s => (x.ask s ["GetMemoryBase"], s.sim.memoryBase)
  | none => (x, 0 - 1)

/-- `TestDrive::GetMemorySize`. -/
def getMemorySize (x : Ctx) : Ctx × UInt64 :=
  match x.this.mpSystem with
  | some s => (x.ask s ["GetMemorySize"], s.sim.memorySize)
  | none => (x, 0)

end Ctx

end QemuTestdrive
