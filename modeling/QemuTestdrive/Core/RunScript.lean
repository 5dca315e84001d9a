import QemuTestdrive.Core.Script
import QemuTestdrive.Lib.Runs

/-!
# Running the Scripts

`TestDrive::RunScript`, which runs the setup script of the device and then the
script its simulation system has for QEMU, and the constructor `TestDrive::TestDrive`,
which calls it when a setup script is configured.

What a chunk of Lua code computes is not part of the program. What the program
sees of it is a `Chunk`: the calls it makes on the device, and how it ends. It
leaves its results, or one error value, on the Lua stack, whose height is the
part of the engine's state the program deals with. A call through a null
`m_pSystem` takes the process down in the middle of a chunk.

`luaL_checkstring` gives the text of a string or a number. On any other value it
raises an error, and outside of a protected call that aborts the process.

## Main definitions

* `Chunk`: A chunk of Lua code as it is run.
* `chunkCalls`: The calls of a chunk that need not be there.
* `ChunkEnd`, `ScriptEnd`: The ways a chunk and `RunScript` can end.
* `Engine`: The device with its Lua engine.
* `runCalls`: The calls of a chunk, as far as they go.
* `runChunk`: `luaL_dofile` and `luaL_dostring`.
* `runScript`: `TestDrive::RunScript`.
* `SetupScript`, `scriptCalls`: A configured setup script, and the calls it leads to.
* `construct`: `TestDrive::TestDrive`.
* `ProcessEnd`, `ScriptEnd.fate`: What becomes of the process.
-/

namespace QemuTestdrive

/-- A chunk of Lua code as it is run: the calls it makes on the device, and then
    the number of results it leaves, or its error value. -/
structure Chunk where
  calls : List ScriptCall
  ending : Except LuaRef Nat

/-- The calls of a chunk, if there is one. -/
def chunkCalls : Option Chunk → List ScriptCall
  | none => []
  | some chunk => chunk.calls

/-- How running a chunk ends: with its results, with an error value on the stack, or
    with a method invoked through a null pointer. -/
inductive ChunkEnd where
  | finished
  | failed (v : LuaRef)
  | crashed

/-- How `RunScript` ends. `crashed` stands for a method invoked through a null
    pointer. -/
inductive ScriptEnd where
  | returned (b : Bool)
  | aborted
  | crashed
  deriving DecidableEq

/-- The device with the height of the stack of its Lua engine, `m_pLua`, if there
    is one. -/
structure Engine where
  ctx : Ctx
  mpLua : Option Nat

/-- `luaL_checkstring`: the text of a value, if it has one. -/
def luaText (F : Framework) : LuaRef → Option String
  | .string s => some (String.ofList (cStr s))
  | .number n => some (F.tostring (.number n))
  | _ => none

/-- The calls of a chunk, one after the other, up to one that crashes: the state
    they leave, and whether all of them have been made. -/
def runCalls (F : Framework) (x : Ctx) : List ScriptCall → Ctx × Bool
  | [] => (x, true)
  | c :: cs =>
      match (exec F x c).2 with
      | .crashed => (step F x c, false)
      | _ => runCalls F (step F x c) cs

/-- `luaL_dofile` or `luaL_dostring`, when there is something to run: the engine
    afterwards, and how the chunk has ended. -/
def runChunk (F : Framework) (e : Engine) : Option Chunk → Engine × ChunkEnd
  | none => (e, .finished)
  | some chunk =>
      match runCalls F e.ctx chunk.calls with
      | (x, false) => ({ e with ctx := x }, .crashed)
      | (x, true) =>
          match chunk.ending with
          | .ok n => ({ ctx := x, mpLua := e.mpLua.map (· + n) }, .finished)
          | .error v => ({ ctx := x, mpLua := e.mpLua.map (· + 1) }, .failed v)

/-- What `RunScript` does about an error value: the message, and the value taken
    off the stack. -/
def scriptError (F : Framework) (e : Engine) (v : LuaRef) : Engine × ScriptEnd :=
  match luaText F v with
  | some sError =>
      ({ ctx := e.ctx.log .error ("Error on running script : " ++ sError)
         mpLua := e.mpLua.map (· - 1) }, .returned false)
  | none => (e, .aborted)

/-- `m_pSystem->SimulationScript(SIMULATION_SCRIPT_QEMU)`, and whether there is a
    system to call. -/
def Ctx.simulationScript (x : Ctx) : Ctx × Bool :=
  match x.this.mpSystem with
  | some s => (x.ask s ["SimulationScript"], true)
  | none => (x.emit (.nullCall "SimulationScript"), false)

/-- `TestDrive::RunScript`. `newstate` is the height of the stack of a new engine
    with the functions and classes of the device registered, if one can be
    created, and `setup` and `simulation` are what the script files do. There is
    no setup without a file name, and the script of the simulation system may be
    empty. -/
def runScript (F : Framework) (newstate : Option Nat) (setup simulation : Option Chunk)
    (e : Engine) : Engine × ScriptEnd :=
  match e.mpLua.or newstate with
  | none => ({ e with ctx := e.ctx.log .error "Can't create Lua engine." }, .returned false)
  | some top =>
      match runChunk F { e with mpLua := some top } setup with
      | (e, .crashed) => (e, .crashed)
      | (e, .failed v) => scriptError F e v
      | (e, .finished) =>
          match e.ctx.simulationScript with
          | (x, false) => ({ e with ctx := x }, .crashed)
          | (x, true) =>
              match runChunk F { e with ctx := x } simulation with
              | (e, .crashed) => (e, .crashed)
              | (e, .failed v) => scriptError F e v
              | (e, .finished) => (e, .returned true)

/-- What `RunScript` finds when `SETUP_SCRIPT` names a file: whether there is a new
    engine, what the file does, and what the script of the simulation system does,
    unless that is empty. A file that cannot be read fails without a call. -/
structure SetupScript where
  newstate : Option Nat
  setup : Chunk
  simulation : Option Chunk

/-- The calls the scripts of a device make on it when they come through. Without a
    configured script there are none. -/
def scriptCalls : Option SetupScript → List ScriptCall
  | none => []
  | some s => s.setup.calls ++ chunkCalls s.simulation

/-- What the constructor `TestDrive::TestDrive` makes of a new device: its state, and
    how its scripts have ended. -/
def construct (F : Framework) (script : Option SetupScript) (x : Ctx) : Ctx × ScriptEnd :=
  match script with
  | none => (x, .returned true)
  | some s =>
      let r := runScript F s.newstate (some s.setup) s.simulation { ctx := x, mpLua := none }
      (r.1.ctx, r.2)

/-- How the process has ended. -/
inductive ProcessEnd where
  | exited
  | aborted
  | crashed
  deriving DecidableEq

/-- What becomes of the process, if the constructor does not return: a script that
    has failed leads to `exit(1)`. -/
def ScriptEnd.fate : ScriptEnd → Option ProcessEnd
  | .returned true => none
  | .returned false => some .exited
  | .aborted => some .aborted
  | .crashed => some .crashed

end QemuTestdrive
