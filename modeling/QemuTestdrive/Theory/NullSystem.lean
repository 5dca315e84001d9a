import QemuTestdrive.Core.Access
import QemuTestdrive.Theory.Construction

/-!
# Calls Through a Null System

`m_pSystem` is null before the first load, after every load that does not go
through, and after a shutdown. Most of the program asks before it calls a method
of the system. `GetDescription` does not, and neither does `RunScript` when it
asks the system for the script it has for QEMU.

Whether a system is there depends on the loads of a script and on nothing else
it does, so `loadedStep` follows it with a truth value, and the calls through
null are read off the script. The first of them takes the process down, so a script
makes all its calls exactly when none of them goes through null.

## Main definitions

* `Ctx.nullCalls`: The methods invoked through a null `m_pSystem`.
* `loadedStep`: Whether there is a system after a call.
* `SystemLoaded`: The scripts call a method of the system only when there is one.

## Theorems

* `step_spec`: The calls through null a script call makes, and the system after it.
* `calls_mpSystem`: `loadedStep` follows the loaded system.
* `runCalls_through_iff`, `runCalls_nullCalls_iff`: A script comes through, and adds
  none, exactly when it describes only a loaded system.
* `runScript_nullCalls_iff`: When `RunScript` adds none.
* `running_nullCalls`: What follows the script adds none.
* `nullCalls_iff`: The whole life of a device.
-/

namespace QemuTestdrive

/-- The method of a call through a null `m_pSystem`. -/
def Event.nullMethod : Event → Option String
  | .nullCall method => some method
  | _ => none

/-- The methods invoked through a null `m_pSystem` so far. -/
def Ctx.nullCalls (x : Ctx) : List String :=
  x.world.trace.filterMap Event.nullMethod

/-- Whether there is a system after a call, from whether there was one before. -/
def loadedStep (b : Bool) : ScriptCall → Bool
  | .loadSystemModule _ o => o.succeeds
  | _ => b

/-- A description is asked for only while there is a system. -/
def DescribesLoaded (b : Bool) (c : ScriptCall) : Prop :=
  c = .getDescription → b = true

/-- The setup script and the script of the simulation system ask a system for
    something only when there is one. -/
structure SystemLoaded (script : List ScriptCall) (simulation : Option Chunk) : Prop where
  described : Runs.Each loadedStep DescribesLoaded false script
  loaded : Runs.run loadedStep false script = true
  simulated : Runs.Each loadedStep DescribesLoaded true (chunkCalls simulation)

theorem nullCalls_emit_append (x : Ctx) (e : Event) :
    (x.emit e).nullCalls = x.nullCalls ++ [e].filterMap Event.nullMethod := by
  simp only [Ctx.nullCalls, Ctx.emit, World.emit, List.filterMap_append]

/-- An event that is no call through null adds none. -/
theorem nullCalls_emit (x : Ctx) (e : Event) (he : e.nullMethod = none) :
    (x.emit e).nullCalls = x.nullCalls := by
  rw [nullCalls_emit_append, List.filterMap_cons_none he, List.filterMap_nil, List.append_nil]

theorem nullCalls_logged {x y : Ctx} (h : Logged x y) :
    y.nullCalls = x.nullCalls := by
  rcases h.trace with ⟨es, hes, hall⟩
  have hnone : es.filterMap Event.nullMethod = [] := by
    refine List.filterMap_eq_nil_iff.mpr fun e he => ?_
    cases hall e he with
    | message l => rfl
    | asked _ method => rfl
  unfold Ctx.nullCalls
  rw [hes, List.filterMap_append, hnone, List.append_nil]

theorem nullCalls_safeRelease (x : Ctx) :
    x.safeRelease.nullCalls = x.nullCalls := by
  unfold Ctx.safeRelease
  split
  · exact nullCalls_emit _ _ rfl
  · rfl

theorem nullCalls_freeModule (x : Ctx) :
    x.freeModule.nullCalls = x.nullCalls := by
  unfold Ctx.freeModule
  split
  · exact nullCalls_emit _ _ rfl
  · rfl

theorem nullCalls_openLibrary (x : Ctx) (file : String) :
    (x.openLibrary file).nullCalls = x.nullCalls :=
  nullCalls_emit _ _ rfl

theorem nullCalls_createSystem (x : Ctx) (lib : Nat) (sim : ISystemSim) :
    (x.createSystem lib sim).nullCalls = x.nullCalls :=
  nullCalls_emit _ _ rfl

theorem nullCalls_log (x : Ctx) (mode : LogMode) (text : String) :
    (x.log mode text).nullCalls = x.nullCalls :=
  nullCalls_emit _ _ rfl

/-- A load calls methods of a system it has just got, and releases one only if it
    is there. -/
theorem nullCalls_load (x : Ctx) (file : String) (o : LoadOutcome) :
    (x.loadSystemModule file o).1.nullCalls = x.nullCalls := by
  have hfree : x.safeRelease.freeModule.nullCalls = x.nullCalls := by
    rw [nullCalls_freeModule, nullCalls_safeRelease]
  rw [← hfree]
  unfold Ctx.loadSystemModule
  simp only
  cases o with
  | noLibrary => rw [nullCalls_log, nullCalls_emit _ _ rfl]
  | noEntry => rw [nullCalls_log, nullCalls_openLibrary]
  | noSystem => rw [nullCalls_log, nullCalls_openLibrary]
  | initFails sim =>
      rw [nullCalls_log, nullCalls_safeRelease, nullCalls_emit _ _ rfl, nullCalls_createSystem,
        nullCalls_openLibrary]
  | success sim =>
      simp only
      rw [nullCalls_emit _ _ rfl, nullCalls_emit _ _ rfl, nullCalls_emit _ _ rfl,
        nullCalls_createSystem, nullCalls_openLibrary]

section Scripts

variable (F : Framework)

/-- The calls through null that a script call makes. -/
def nullDescribed (x : Ctx) : ScriptCall → List String
  | .getDescription => if x.this.mpSystem.isSome then [] else ["GetDescription"]
  | _ => []

theorem nullDescribed_eq_nil_iff (x : Ctx) (c : ScriptCall) :
    nullDescribed x c = [] ↔ DescribesLoaded x.this.mpSystem.isSome c := by
  unfold DescribesLoaded
  cases c with
  | getDescription =>
      unfold nullDescribed
      cases x.this.mpSystem.isSome with
      | true => exact iff_of_true rfl fun _ => rfl
      | false => exact iff_of_false (List.cons_ne_nil _ _) fun h => Bool.noConfusion (h rfl)
  | _ => exact iff_of_true rfl fun h => ScriptCall.noConfusion h

/-- What a script call does to the calls through null and to the loaded system:
    nothing, unless it is a load or a description. -/
theorem step_spec (x : Ctx) (c : ScriptCall) :
    (step F x c).nullCalls = x.nullCalls ++ nullDescribed x c ∧
      (step F x c).this.mpSystem.isSome = loadedStep x.this.mpSystem.isSome c := by
  have hother : ∀ c : ScriptCall, Logged x (step F x c) →
      (step F x c).nullCalls = x.nullCalls ++ [] ∧
        (step F x c).this.mpSystem.isSome = x.this.mpSystem.isSome := by
    intro c hlogged
    exact ⟨by rw [nullCalls_logged hlogged, List.append_nil], by rw [hlogged.mpSystem]⟩
  cases c with
  | createBAR t size addr b64 pf => exact hother _ (logged_createBAR F x t size addr b64 pf)
  | enableMSI n mask => exact hother _ (logged_enableMSI x n mask)
  | enableMSIX n mask iBar offT offP => exact hother _ (logged_enableMSIX x n mask iBar offT offP)
  | enableDisplay w h addr fmt => exact hother _ (logged_enableDisplay F x w h addr fmt)
  | loadSystemModule file o =>
      exact ⟨(nullCalls_load x file o).trans (List.append_nil _).symm,
        (load_succeeds x file o).1⟩
  | getDescription =>
      -- The one getter that does not look whether there is a system.
      rcases hs : x.this.mpSystem with _ | s
      · have hnull : step F x .getDescription = x.emit (.nullCall "GetDescription") := by
          simp only [step, exec, Ctx.getDescription, hs]
        rw [hnull]
        refine ⟨?_, by rw [Ctx.emit_this, hs]; rfl⟩
        rw [nullCalls_emit_append, nullDescribed, hs]
        rfl
      · have hasked := hother _ (exec_logged F x .getDescription
          (fun _ _ h => ScriptCall.noConfusion h) fun _ => by rw [hs]; rfl)
        rw [nullDescribed, hs]
        rw [hs] at hasked
        exact hasked
  | getMemoryBase =>
      exact hother _ (exec_logged F x _ (fun _ _ h => ScriptCall.noConfusion h)
        fun h => ScriptCall.noConfusion h)
  | getMemorySize =>
      exact hother _ (exec_logged F x _ (fun _ _ h => ScriptCall.noConfusion h)
        fun h => ScriptCall.noConfusion h)

/-- `loadedStep` follows the loaded system along a script. -/
theorem calls_mpSystem (x : Ctx) (calls : List ScriptCall) :
    (Runs.run (step F) x calls).this.mpSystem.isSome =
      Runs.run loadedStep x.this.mpSystem.isSome calls := by
  have hsim := Runs.run_simulates (step F) loadedStep id
    (R := fun y b => y.this.mpSystem.isSome = b) (V := fun _ => True)
    (fun y b c _ hb => by rw [(step_spec F y c).2, hb]; rfl) calls x _ (fun _ _ => trivial) rfl
  rw [List.map_id] at hsim
  exact hsim

/-- The only call that crashes is the description of a missing system. -/
theorem exec_crashed_iff (x : Ctx) (c : ScriptCall) :
    (exec F x c).2 = .crashed ↔ ¬ DescribesLoaded x.this.mpSystem.isSome c := by
  have hexcept : ∀ r : Except CxxException Bool, CallResult.ofExcept r ≠ .crashed := by
    intro r
    cases r with
    | ok b => exact CallResult.noConfusion
    | error e => exact CallResult.noConfusion
  cases c with
  | getDescription =>
      unfold DescribesLoaded
      rcases hs : x.this.mpSystem with _ | s
      · simp only [exec, Ctx.getDescription, hs]
        exact iff_of_true trivial fun h => Bool.noConfusion (h trivial)
      · simp only [exec, Ctx.getDescription, hs]
        exact iff_of_false CallResult.noConfusion fun h => h fun _ => rfl
  | createBAR t size addr b64 pf =>
      exact iff_of_false (hexcept _) fun h => h fun heq => ScriptCall.noConfusion heq
  | enableDisplay w h addr fmt =>
      exact iff_of_false (hexcept _) fun h => h fun heq => ScriptCall.noConfusion heq
  | _ => exact iff_of_false CallResult.noConfusion fun h => h fun heq => ScriptCall.noConfusion heq

/-- A script makes all its calls exactly when it describes only a loaded system. -/
theorem runCalls_through_iff (x : Ctx) (calls : List ScriptCall) :
    (runCalls F x calls).2 = true ↔
      Runs.Each loadedStep DescribesLoaded x.this.mpSystem.isSome calls := by
  induction calls generalizing x with
  | nil => exact iff_of_true rfl (Runs.each_nil _ _ _)
  | cons c cs ih =>
      rw [Runs.each_cons]
      unfold runCalls
      split
      · rename_i hcrash
        exact iff_of_false Bool.false_ne_true fun h => (exec_crashed_iff F x c).mp hcrash h.1
      · rename_i hcrash
        have hloaded : DescribesLoaded x.this.mpSystem.isSome c :=
          of_not_not fun h => hcrash ((exec_crashed_iff F x c).mpr h)
        rw [ih, (step_spec F x c).2, and_iff_right hloaded]

/-- It calls nothing through null in the same case, and stops at the first such call
    otherwise. -/
theorem runCalls_nullCalls_iff (x : Ctx) (calls : List ScriptCall) :
    (runCalls F x calls).1.nullCalls = x.nullCalls ↔
      Runs.Each loadedStep DescribesLoaded x.this.mpSystem.isSome calls := by
  induction calls generalizing x with
  | nil => exact iff_of_true rfl (Runs.each_nil _ _ _)
  | cons c cs ih =>
      have hnull := (step_spec F x c).1
      rw [Runs.each_cons]
      unfold runCalls
      split
      · rename_i hcrash
        have hdescribes := (exec_crashed_iff F x c).mp hcrash
        refine iff_of_false (fun h => ?_) fun h => hdescribes h.1
        exact hdescribes ((nullDescribed_eq_nil_iff x c).mp
          (List.append_right_eq_self.mp (hnull.symm.trans h)))
      · rename_i hcrash
        have hloaded : DescribesLoaded x.this.mpSystem.isSome c :=
          of_not_not fun h => hcrash ((exec_crashed_iff F x c).mpr h)
        rw [(nullDescribed_eq_nil_iff x c).mpr hloaded, List.append_nil] at hnull
        rw [← hnull, ih, (step_spec F x c).2, and_iff_right hloaded]

/-- The same for a chunk, if there is one. -/
theorem runChunk_nullCalls_iff (e : Engine) (chunk : Option Chunk) :
    (runChunk F e chunk).1.ctx.nullCalls = e.ctx.nullCalls ↔
      Runs.Each loadedStep DescribesLoaded e.ctx.this.mpSystem.isSome (chunkCalls chunk) := by
  rcases chunk with _ | ⟨calls, ending⟩
  · exact iff_of_true rfl (Runs.each_nil _ _ _)
  · have hcalls := runCalls_nullCalls_iff F e.ctx calls
    rcases hrun : runCalls F e.ctx calls with ⟨x, _ | _⟩
    · rw [hrun] at hcalls
      simp only [runChunk, hrun]
      exact hcalls
    · rw [hrun] at hcalls
      simp only [runChunk, hrun]
      cases ending with
      | ok n => exact hcalls
      | error v => exact hcalls

/-- What follows the script calls nothing through null. -/
theorem runningStep_nullCalls (x : Ctx) (op : RunningOp) :
    (runningStep x op).nullCalls = x.nullCalls := by
  have hio : ∀ bWrite addr val io, (x.memIO bWrite addr val io).1.nullCalls = x.nullCalls := by
    intro bWrite addr val io
    unfold Ctx.memIO
    split
    · exact nullCalls_emit _ _ rfl
    · rfl
  -- An access asks the system only on the `io_slave` path, which looks for it first.
  cases op with
  | access a =>
      cases a with
      | read bar offset n io =>
          unfold runningStep Ctx.access Ctx.testdriveBarRead
          simp only
          split
          · exact nullCalls_emit _ _ rfl
          · split
            · exact hio _ _ _ _
            · exact nullCalls_log _ _ _
      | write bar offset val n io =>
          unfold runningStep Ctx.access Ctx.testdriveBarWrite
          simp only
          split
          · exact nullCalls_emit _ _ rfl
          · split
            · exact hio _ _ _ _
            · exact nullCalls_log _ _ _
  | shutdown =>
      unfold runningStep Ctx.shutdown
      simp only
      split
      · exact nullCalls_safeRelease x
      · rfl

theorem running_nullCalls (x : Ctx) (ops : List RunningOp) :
    (Runs.run runningStep x ops).nullCalls = x.nullCalls :=
  Runs.run_preserves runningStep (I := fun y => y.nullCalls = x.nullCalls)
    (fun y op hy => (runningStep_nullCalls y op).trans hy) x ops rfl

theorem scriptError_nullCalls (e : Engine) (v : LuaRef) :
    (scriptError F e v).1.ctx.nullCalls = e.ctx.nullCalls := by
  unfold scriptError
  split
  · exact nullCalls_log _ _ _
  · rfl

/-- The same for the last chunk, however it ends. -/
theorem last_nullCalls_iff (e : Engine) (chunk : Option Chunk) :
    (reporting F e chunk fun e => (e, .returned true)).1.ctx.nullCalls = e.ctx.nullCalls ↔
      Runs.Each loadedStep DescribesLoaded e.ctx.this.mpSystem.isSome (chunkCalls chunk) := by
  rw [← runChunk_nullCalls_iff]
  unfold reporting
  split
  · rename_i e' hend
    rw [hend]
  · rename_i e' v hend
    rw [hend, scriptError_nullCalls]
  · rename_i e' hend
    rw [hend]

/-- The setup script ends normally, so `RunScript` calls nothing through null exactly
    when that script describes only a loaded system, leaves one behind, and the
    simulation script describes only a loaded system. -/
theorem runScript_nullCalls_iff (x : Ctx) (script : List ScriptCall) (n top : Nat)
    (simulation : Option Chunk) :
    (runScript F (some top) (some { calls := script, ending := .ok n }) simulation
        { ctx := x, mpLua := none }).1.ctx.nullCalls = x.nullCalls ↔
      Runs.Each loadedStep DescribesLoaded x.this.mpSystem.isSome script ∧
        Runs.run loadedStep x.this.mpSystem.isSome script = true ∧
        Runs.Each loadedStep DescribesLoaded true (chunkCalls simulation) := by
  have hnull := runCalls_nullCalls_iff F x script
  have hthrough := runCalls_through_iff F x script
  rw [runScript_reporting F rfl]
  rcases hrun : runCalls F x script with ⟨y, _ | _⟩
  · -- The script stops at a call through null.
    rw [hrun] at hnull hthrough
    simp only [reporting, runChunk, hrun]
    exact iff_of_false (fun h => Bool.false_ne_true (hthrough.mpr (hnull.mp h)))
      fun h => Bool.false_ne_true (hthrough.mpr h.1)
  · rw [hrun] at hnull hthrough
    have hdescribes := hthrough.mp rfl
    have hy : y.nullCalls = x.nullCalls := hnull.mpr hdescribes
    have hloaded : y.this.mpSystem.isSome = Runs.run loadedStep x.this.mpSystem.isSome script := by
      rw [← calls_mpSystem F x script]
      rcases runCalls_run F x script with ⟨pre, post, hcalls, hctx, hall⟩
      rw [hrun] at hctx hall
      rw [hcalls, hall rfl, List.append_nil, ← hctx]
    have hchunk : ∀ next, reporting F { ctx := x, mpLua := some top }
        (some { calls := script, ending := .ok n }) next =
          next { ctx := y, mpLua := some (top + n) } := by
      intro next
      simp only [reporting, runChunk, hrun, Option.map_some]
    rw [hchunk, and_iff_right hdescribes, ← hloaded, ← hy]
    -- Whether a system is left decides on the call after the setup script.
    rcases hs : y.this.mpSystem with _ | s
    · have hcrash : simulating F simulation { ctx := y, mpLua := some (top + n) } =
          ({ ctx := y.emit (.nullCall "SimulationScript"), mpLua := some (top + n) },
            .crashed) := by
        simp only [simulating, Ctx.simulationScript, hs]
      rw [hcrash]
      refine iff_of_false (fun h => ?_) fun h => Bool.false_ne_true h.1
      exact List.cons_ne_nil _ _
        (List.append_right_eq_self.mp ((nullCalls_emit_append y _).symm.trans h))
    · have hgoes : simulating F simulation { ctx := y, mpLua := some (top + n) } =
          reporting F { ctx := y.ask s ["SimulationScript"], mpLua := some (top + n) } simulation
            fun e => (e, .returned true) := by
        simp only [simulating, Ctx.simulationScript, hs]
      have hlast := last_nullCalls_iff F
        { ctx := y.ask s ["SimulationScript"], mpLua := some (top + n) } simulation
      have hasked := logged_ask hs ["SimulationScript"]
      simp only [nullCalls_logged hasked, hasked.mpSystem, hs] at hlast
      rw [hgoes, hlast]
      exact (and_iff_right rfl).symm

/-- In the life of a device, from a setup script that ends normally to its
    shutdown, nothing is called through null exactly when the scripts ask only a
    loaded system. -/
theorem nullCalls_iff (p : Process) (d : Nat) (script : List ScriptCall) (n top : Nat)
    (simulation : Option Chunk) (ops : List RunningOp) :
    (Runs.run runningStep
        (runScript F (some top) (some { calls := script, ending := .ok n }) simulation
          { ctx := p.scriptStart d, mpLua := none }).1.ctx ops).nullCalls =
      (p.scriptStart d).nullCalls ↔ SystemLoaded script simulation := by
  rw [running_nullCalls, runScript_nullCalls_iff]
  exact ⟨fun h => ⟨h.1, h.2.1, h.2.2⟩, fun h => ⟨h.described, h.loaded, h.simulated⟩⟩

end Scripts

/-- A setup script that ends normally after a load that has failed. -/
theorem simulationScript_null :
    (Runs.run runningStep
        (runScript Framework.standard (some 0)
          (some { calls := [.loadSystemModule "system.so" .noLibrary], ending := .ok 0 }) none
          { ctx := Process.start.scriptStart 0, mpLua := none }).1.ctx []).nullCalls =
        ["SimulationScript"] ∧
      (Process.start.scriptStart 0).nullCalls = [] :=
  ⟨rfl, rfl⟩

end QemuTestdrive
