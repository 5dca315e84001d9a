import QemuTestdrive.Theory.NullSystem

/-!
# How a Script Ends

`RunScript` runs two chunks, and does the same with both: an error is logged, its
value is taken off the stack, and the function returns false. It reads the error
value as a string, which a table or a userdata is not, and that read raises an
error of its own where nothing catches it. It takes nothing off the stack if a
chunk succeeds, so the results of a chunk stay there. A chunk that asks a missing
system for its description does not get to its end at all.

`RunScript` is two `reporting` steps, one inside the other, so the results of the
first chunk are below everything the second one does to the stack.

## Main definitions

* `chunkSucceeds`: A chunk ends without an error.
* `ScriptReported`: `RunScript` reports how its chunks ended.
* `ChunkSettled`: A chunk leaves nothing, or an error value with a text.
* `ChunkReported`: A chunk also comes to its end.

## Theorems

* `runCalls_through`: The calls of a chunk that comes to its end are all made.
* `scriptError_text`, `scriptError_aborts`: What an error value does.
* `reporting_crashes`, `reporting_fails`, `reporting_succeeds`: The step, by how the
  chunk ends.
* `reporting_simulation`: The step for the second chunk.
* `scriptReported_iff`: When `RunScript` reports every failure.
-/

namespace QemuTestdrive

/-- A chunk ends without an error, or there is none. -/
def chunkSucceeds : Option Chunk → Bool
  | some { calls := _, ending := .error _ } => false
  | _ => true

/-- `RunScript` returns whether both chunks have succeeded, and leaves the stack as
    high as it was. -/
structure ScriptReported (F : Framework) (newstate : Option Nat) (setup simulation : Option Chunk)
    (e : Engine) (top : Nat) : Prop where
  result : (runScript F newstate setup simulation e).2 =
    .returned (chunkSucceeds setup && chunkSucceeds simulation)
  height : (runScript F newstate setup simulation e).1.mpLua = some top

/-- A string or a number. -/
def HasText : LuaRef → Prop
  | .string _ => True
  | .number _ => True
  | _ => False

/-- A chunk that succeeds leaves no results, and the error value of one that fails
    is a string or a number. -/
def ChunkSettled : Option Chunk → Prop
  | some { calls := _, ending := .ok n } => n = 0
  | some { calls := _, ending := .error v } => HasText v
  | none => True

/-- A chunk that is settled and describes a system only when there is one, `b` being
    whether there is one before it. -/
structure ChunkReported (b : Bool) (chunk : Option Chunk) : Prop where
  settled : ChunkSettled chunk
  described : Runs.Each loadedStep DescribesLoaded b (chunkCalls chunk)

section Report

variable (F : Framework)

/-- A script that makes all its calls is a run. -/
theorem runCalls_through {x : Ctx} {calls : List ScriptCall}
    (h : Runs.Each loadedStep DescribesLoaded x.this.mpSystem.isSome calls) :
    runCalls F x calls = (Runs.run (step F) x calls, true) := by
  have hthrough := (runCalls_through_iff F x calls).mpr h
  rcases runCalls_run F x calls with ⟨pre, post, hcalls, hctx, hall⟩
  rw [hall hthrough, List.append_nil] at hcalls
  exact Prod.ext (hcalls ▸ hctx) hthrough

/-- A chunk that describes a missing system ends `RunScript`. -/
theorem reporting_crashes (e : Engine) (chunk : Option Chunk) (next : Engine → Engine × ScriptEnd)
    (h : ¬ Runs.Each loadedStep DescribesLoaded e.ctx.this.mpSystem.isSome (chunkCalls chunk)) :
    (reporting F e chunk next).2 = .crashed := by
  rcases chunk with _ | ⟨calls, ending⟩
  · exact absurd (Runs.each_nil _ _ _) h
  · have hstops := mt (runCalls_through_iff F e.ctx calls).mp h
    rcases hrun : runCalls F e.ctx calls with ⟨x, _ | _⟩
    · simp only [reporting, runChunk, hrun]
    · exact absurd (congrArg Prod.snd hrun) hstops

/-- An error with a text is reported, and its value taken off the stack. -/
theorem scriptError_text (x : Ctx) (m : Nat) {v : LuaRef} (hv : HasText v) :
    (scriptError F { ctx := x, mpLua := some (m + 1) } v).2 = .returned false ∧
      (scriptError F { ctx := x, mpLua := some (m + 1) } v).1.mpLua = some m := by
  cases v with
  | string s => exact ⟨rfl, rfl⟩
  | number n => exact ⟨rfl, rfl⟩
  | _ => exact absurd hv id

/-- An error without one aborts the process. -/
theorem scriptError_aborts (e : Engine) {v : LuaRef} (hv : ¬ HasText v) :
    (scriptError F e v).2 = .aborted := by
  cases v with
  | string s => exact absurd trivial hv
  | number n => exact absurd trivial hv
  | _ => rfl

/-- A chunk that fails, entered with the stack at the height `m`. -/
theorem reporting_fails (x : Ctx) {m top : Nat} (calls : List ScriptCall) (v : LuaRef)
    (next : Engine → Engine × ScriptEnd) :
    (reporting F { ctx := x, mpLua := some m } (some { calls := calls, ending := .error v })
          next).2 = .returned false ∧
        (reporting F { ctx := x, mpLua := some m } (some { calls := calls, ending := .error v })
          next).1.mpLua = some top ↔
      m = top ∧ ChunkReported x.this.mpSystem.isSome
        (some { calls := calls, ending := .error v }) := by
  by_cases hdescribed : Runs.Each loadedStep DescribesLoaded x.this.mpSystem.isSome calls
  · have hfail : reporting F { ctx := x, mpLua := some m }
        (some { calls := calls, ending := .error v }) next =
          scriptError F { ctx := Runs.run (step F) x calls, mpLua := some (m + 1) } v := by
      simp only [reporting, runChunk, runCalls_through F hdescribed, Option.map_some]
    rw [hfail]
    by_cases hv : HasText v
    · have herror := scriptError_text F (Runs.run (step F) x calls) m hv
      constructor
      · rintro ⟨_, hheight⟩
        exact ⟨Option.some.inj (herror.2.symm.trans hheight), hv, hdescribed⟩
      · rintro ⟨rfl, _⟩
        exact herror
    · have herror := scriptError_aborts F
        { ctx := Runs.run (step F) x calls, mpLua := some (m + 1) } hv
      refine iff_of_false (fun h => ?_) fun h => hv h.2.settled
      exact ScriptEnd.noConfusion (herror.symm.trans h.1)
  · have hcrash := reporting_crashes F { ctx := x, mpLua := some m }
      (some { calls := calls, ending := .error v }) next hdescribed
    refine iff_of_false (fun h => ?_) fun h => hdescribed h.2.described
    exact ScriptEnd.noConfusion (hcrash.symm.trans h.1)

/-- A chunk that succeeds, or is not there, leaves its results below what comes
    next. -/
theorem reporting_succeeds (x : Ctx) (m : Nat) {chunk : Option Chunk}
    (h : chunkSucceeds chunk = true)
    (hdescribed : Runs.Each loadedStep DescribesLoaded x.this.mpSystem.isSome (chunkCalls chunk)) :
    ∃ n, (ChunkSettled chunk ↔ n = 0) ∧ ∀ next, reporting F { ctx := x, mpLua := some m } chunk
      next = next { ctx := Runs.run (step F) x (chunkCalls chunk), mpLua := some (m + n) } := by
  rcases chunk with _ | ⟨calls, v | n⟩
  · exact ⟨0, iff_of_true trivial rfl, fun _ => rfl⟩
  · exact absurd h Bool.false_ne_true
  · refine ⟨n, Iff.rfl, fun next => ?_⟩
    have hrun : runCalls F x calls = (Runs.run (step F) x calls, true) :=
      runCalls_through F hdescribed
    simp only [reporting, runChunk, hrun, Option.map_some]
    rfl

/-- The second chunk, entered with the stack at the height `m`. -/
theorem reporting_simulation (x : Ctx) {m top : Nat} (hm : top ≤ m) (simulation : Option Chunk) :
    (reporting F { ctx := x, mpLua := some m } simulation fun e => (e, .returned true)).2 =
        .returned (chunkSucceeds simulation) ∧
      (reporting F { ctx := x, mpLua := some m } simulation fun e => (e, .returned true)).1.mpLua =
        some top ↔
      m = top ∧ ChunkReported x.this.mpSystem.isSome simulation := by
  cases hok : chunkSucceeds simulation with
  | true =>
      by_cases hdescribed :
        Runs.Each loadedStep DescribesLoaded x.this.mpSystem.isSome (chunkCalls simulation)
      · rcases reporting_succeeds F x m hok hdescribed with ⟨n, hsettled, hnext⟩
        rw [hnext]
        -- The results of this chunk are on top of what the first one has left.
        constructor
        · rintro ⟨_, hheight⟩
          have hsum : m + n = top := Option.some.inj hheight
          exact ⟨by omega, hsettled.mpr (by omega), hdescribed⟩
        · rintro ⟨rfl, hreported⟩
          rw [hsettled.mp hreported.settled]
          exact ⟨rfl, rfl⟩
      · have hcrash := reporting_crashes F { ctx := x, mpLua := some m } simulation
          (fun e => (e, .returned true)) hdescribed
        refine iff_of_false (fun h => ?_) fun h => hdescribed h.2.described
        exact ScriptEnd.noConfusion (hcrash.symm.trans h.1)
  | false =>
      rcases simulation with _ | ⟨calls, v | n⟩
      · exact absurd hok.symm Bool.false_ne_true
      · exact reporting_fails F x calls v _
      · exact absurd hok.symm Bool.false_ne_true

/-- `RunScript` reports every failure, and leaves the stack as it was, exactly when
    the chunks that are run leave no results, fail with a text, and describe only a
    loaded system. The second one is run if the first has succeeded, and then there is
    a system. -/
theorem scriptReported_iff (newstate : Option Nat) (e : Engine) (top : Nat)
    (htop : e.mpLua.or newstate = some top) (setup simulation : Option Chunk)
    (hloaded : chunkSucceeds setup = true →
      (Runs.run (step F) e.ctx (chunkCalls setup)).this.mpSystem.isSome = true) :
    ScriptReported F newstate setup simulation e top ↔
      ChunkReported e.ctx.this.mpSystem.isSome setup ∧
        (chunkSucceeds setup = true → ChunkReported true simulation) := by
  have hspec : ScriptReported F newstate setup simulation e top ↔
      (runScript F newstate setup simulation e).2 =
          .returned (chunkSucceeds setup && chunkSucceeds simulation) ∧
        (runScript F newstate setup simulation e).1.mpLua = some top :=
    ⟨fun h => ⟨h.result, h.height⟩, fun h => ⟨h.1, h.2⟩⟩
  rw [hspec, runScript_reporting F htop]
  -- The simulation script is run only if the setup script has succeeded.
  cases hok : chunkSucceeds setup with
  | true =>
      by_cases hdescribed :
        Runs.Each loadedStep DescribesLoaded e.ctx.this.mpSystem.isSome (chunkCalls setup)
      · rcases reporting_succeeds F e.ctx top hok hdescribed with ⟨n, hsettled, hnext⟩
        rcases Option.isSome_iff_exists.mp (hloaded hok) with ⟨s, hs⟩
        have hasked := logged_ask hs ["SimulationScript"]
        have hsim := reporting_simulation F
          ((Runs.run (step F) e.ctx (chunkCalls setup)).ask s ["SimulationScript"])
          (Nat.le_add_right top n) simulation
        rw [hasked.mpSystem, hloaded hok] at hsim
        have hreported : ChunkReported e.ctx.this.mpSystem.isSome setup ↔ n = 0 :=
          ⟨fun h => hsettled.mp h.settled, fun h => ⟨hsettled.mpr h, hdescribed⟩⟩
        rw [hnext, Bool.true_and, hreported, imp_iff_right (rfl : true = true),
          ← Nat.add_eq_left, ← hsim]
        simp only [simulating, Ctx.simulationScript, hs]
      · have hcrash := reporting_crashes F { e with mpLua := some top } setup
          (simulating F simulation) hdescribed
        refine iff_of_false (fun h => ?_) fun h => hdescribed h.1.described
        exact ScriptEnd.noConfusion (hcrash.symm.trans h.1)
  | false =>
      rcases setup with _ | ⟨calls, v | n⟩
      · exact absurd hok.symm Bool.false_ne_true
      · rw [Bool.false_and, reporting_fails F e.ctx calls v]
        exact ⟨fun h => ⟨h.2, fun hsucc => absurd hsucc Bool.false_ne_true⟩,
          fun h => ⟨rfl, h.1⟩⟩
      · exact absurd hok.symm Bool.false_ne_true

end Report

/-- A setup script that loads a module and then ends. -/
def loadingScript (ending : Except LuaRef Nat) : Chunk :=
  { calls := [.loadSystemModule "system.so" (.success (ISystemSim.flat 0 0 0))], ending := ending }

/-- A simulation script that fails with a message. -/
theorem scriptReported_load :
    ScriptReported Framework.standard (some 0) (some (loadingScript (.ok 0)))
        (some { calls := [], ending := .error (.string "no device") })
        { ctx := Ctx.start, mpLua := none } 0 ↔
      ChunkReported false (some (loadingScript (.ok 0))) ∧
        (chunkSucceeds (some (loadingScript (.ok 0))) = true →
          ChunkReported true (some { calls := [], ending := .error (.string "no device") })) :=
  scriptReported_iff Framework.standard (some 0) { ctx := Ctx.start, mpLua := none } 0 rfl
    (some (loadingScript (.ok 0))) (some { calls := [], ending := .error (.string "no device") })
    fun _ => rfl

/-- A setup script that raises a table takes the process down, though the system is
    loaded. -/
theorem table_error_aborts :
    (Runs.run (step Framework.standard) Ctx.start
        (chunkCalls (some (loadingScript (.error .other))))).this.mpSystem.isSome = true ∧
      (runScript Framework.standard (some 0) (some (loadingScript (.error .other))) none
        { ctx := Ctx.start, mpLua := none }).2 = .aborted ∧
      ¬ ScriptReported Framework.standard (some 0) (some (loadingScript (.error .other))) none
        { ctx := Ctx.start, mpLua := none } 0 :=
  ⟨rfl, rfl, fun h => ScriptEnd.noConfusion h.result⟩

end QemuTestdrive
