import QemuTestdrive.Core.Device
import QemuTestdrive.Theory.Events

/-!
# The Scripts of a New Device

The constructor of a device runs two scripts, and a call to the simulation system
comes between them. What happens to the device in all of it is no more than script
calls, messages and that one call. `RunScript` does the same with both chunks, which is
`reporting`, and `construct_steps` takes the whole constructor apart into such steps.
Whatever they keep is kept by the constructor.

A script may stop before its end. But no operation of the device reads the trace, so
the device and the parameters are those after the calls that have been made, one
after the other (`construct_run`). If the constructor returns, that is all of them,
and what is known of a run of script calls is known of a new device.

## Main definitions

* `Ctx.withTrace`: The state with another trace.
* `reporting`: Running a chunk and reporting its error.
* `SetupStep`, `setupStep`: A step of the constructor, and its effect.
* `setupSteps`: The steps when the scripts come through.
* `DeviceEffect`: The ways a device operation can go.

## Theorems

* `exec_withTrace`, `run_withTrace`: Script calls do not depend on the trace.
* `runScript_reporting`: `RunScript` as two chunks one after the other.
* `runCalls_run`: The calls of a chunk are made up to one that crashes.
* `construct_steps`: The steps of the constructor.
* `construct_preserves`: What every step keeps.
* `construct_run`: The calls the constructor has made.
* `Starts.param`, `Starts.drive`: What `device_realize` finds after it.
* `deviceStep_effect`: Every device operation goes one of the listed ways.
-/

namespace QemuTestdrive

/-- The state with another trace. -/
def Ctx.withTrace (x : Ctx) (t : List Event) : Ctx :=
  { x with world := { x.world with trace := t } }

section Trace

variable (F : Framework) (x : Ctx) (t : List Event)

theorem logs_withTrace (ls : List (LogMode × String)) :
    ∃ t', (x.withTrace t).logs ls = (x.logs ls).withTrace t' :=
  ⟨_, by rw [logs_eq, logs_eq]; rfl⟩

theorem addBAR_withTrace (bar : TestdrivePciBar) :
    ∃ t', (x.withTrace t).addBAR bar = ((x.addBAR bar).1.withTrace t', (x.addBAR bar).2) := by
  unfold Ctx.addBAR
  split
  · exact ⟨_, rfl⟩
  · exact ⟨_, by simp only [logs_eq, askPointer_eq]; rfl⟩

theorem createBAR_withTrace (spaceType : Option String) (size addr b64 pf : LuaRef) :
    ∃ t', (x.withTrace t).createBAR F spaceType size addr b64 pf =
      ((x.createBAR F spaceType size addr b64 pf).1.withTrace t',
        (x.createBAR F spaceType size addr b64 pf).2) := by
  cases spaceType with
  | none => exact ⟨t, rfl⟩
  | some sType =>
      unfold Ctx.createBAR
      simp only
      split
      · exact ⟨_, rfl⟩
      · rcases LuaInt64.GET F size with ⟨ls, es | s⟩
        · rcases logs_withTrace x t ls with ⟨t', ht'⟩
          exact ⟨t', by simp only [ht']⟩
        · rcases logs_withTrace x t ls with ⟨t', ht'⟩
          rcases LuaInt64.GET F addr with ⟨la, ea | a⟩
          · rcases logs_withTrace (x.logs ls) t' la with ⟨t'', ht''⟩
            exact ⟨t'', by simp only [ht', ht'']⟩
          · rcases logs_withTrace (x.logs ls) t' la with ⟨t'', ht''⟩
            simp only [ht', ht'']
            exact addBAR_withTrace _ t'' _

theorem enableDisplay_withTrace (w h : Int32) (addr fmt : LuaRef) :
    ∃ t', (x.withTrace t).enableDisplay F w h addr fmt =
      ((x.enableDisplay F w h addr fmt).1.withTrace t', (x.enableDisplay F w h addr fmt).2) := by
  have hbind : ∀ s d, ∃ t', (x.withTrace t).bindDisplay F s addr d =
      ((x.bindDisplay F s addr d).1.withTrace t', (x.bindDisplay F s addr d).2) := by
    intro s d
    unfold Ctx.bindDisplay
    split
    · exact ⟨_, rfl⟩
    · split
      · exact ⟨_, rfl⟩
      · exact ⟨t, rfl⟩
  have hthis : (x.withTrace t).this = x.this := rfl
  unfold Ctx.enableDisplay
  rw [hthis]
  split
  · split
    · exact ⟨_, rfl⟩
    · simp only
      split
      · split
        · exact ⟨_, rfl⟩
        · exact hbind _ _
      · exact hbind _ _
  · exact ⟨t, rfl⟩

theorem safeRelease_withTrace : ∃ t', (x.withTrace t).safeRelease = x.safeRelease.withTrace t' := by
  have hthis : (x.withTrace t).this = x.this := rfl
  unfold Ctx.safeRelease
  rw [hthis]
  split
  · exact ⟨_, rfl⟩
  · exact ⟨t, rfl⟩

theorem freeModule_withTrace : ∃ t', (x.withTrace t).freeModule = x.freeModule.withTrace t' := by
  have hthis : (x.withTrace t).this = x.this := rfl
  unfold Ctx.freeModule
  rw [hthis]
  split
  · exact ⟨_, rfl⟩
  · exact ⟨t, rfl⟩

theorem load_withTrace (file : String) (o : LoadOutcome) :
    ∃ t', (x.withTrace t).loadSystemModule file o =
      ((x.loadSystemModule file o).1.withTrace t', (x.loadSystemModule file o).2) := by
  rcases safeRelease_withTrace x t with ⟨t', hrelease⟩
  rcases freeModule_withTrace x.safeRelease t' with ⟨t'', hfree⟩
  unfold Ctx.loadSystemModule
  rw [hrelease, hfree]
  cases o with
  | noLibrary => exact ⟨_, rfl⟩
  | noEntry => exact ⟨_, rfl⟩
  | noSystem => exact ⟨_, rfl⟩
  | initFails sim => exact ⟨_, rfl⟩
  | success sim => exact ⟨_, rfl⟩

/-- What a script call does and gives back does not depend on the trace. -/
theorem exec_withTrace (c : ScriptCall) :
    ∃ t', exec F (x.withTrace t) c = ((exec F x c).1.withTrace t', (exec F x c).2) := by
  have hthis : (x.withTrace t).this = x.this := rfl
  cases c with
  | createBAR spaceType size addr b64 pf =>
      rcases createBAR_withTrace F x t spaceType size addr b64 pf with ⟨t', h⟩
      exact ⟨t', by simp only [exec, h]⟩
  | enableMSI n mask =>
      simp only [exec, Ctx.enableMSI]
      split
      · exact ⟨_, rfl⟩
      · exact ⟨_, rfl⟩
  | enableMSIX n mask iBar offT offP =>
      have hparam : (x.withTrace t).param = x.param := rfl
      simp only [exec, Ctx.enableMSIX, hparam]
      split
      · exact ⟨_, rfl⟩
      · split
        · exact ⟨_, rfl⟩
        · split
          · exact ⟨_, rfl⟩
          · exact ⟨_, rfl⟩
  | enableDisplay w h addr fmt =>
      rcases enableDisplay_withTrace F x t w h addr fmt with ⟨t', h⟩
      exact ⟨t', by simp only [exec, h]⟩
  | loadSystemModule file o =>
      rcases load_withTrace x t file o with ⟨t', h⟩
      exact ⟨t', by simp only [exec, h]⟩
  | getDescription =>
      simp only [exec, Ctx.getDescription, hthis]
      split
      · exact ⟨_, rfl⟩
      · exact ⟨_, rfl⟩
  | getMemoryBase =>
      simp only [exec, Ctx.getMemoryBase, hthis]
      split
      · exact ⟨_, rfl⟩
      · exact ⟨t, rfl⟩
  | getMemorySize =>
      simp only [exec, Ctx.getMemorySize, hthis]
      split
      · exact ⟨_, rfl⟩
      · exact ⟨t, rfl⟩

/-- The same for a run. -/
theorem run_withTrace (calls : List ScriptCall) :
    ∃ t', Runs.run (step F) (x.withTrace t) calls = (Runs.run (step F) x calls).withTrace t' := by
  induction calls generalizing x t with
  | nil => exact ⟨t, rfl⟩
  | cons c cs ih =>
      rcases exec_withTrace F x t c with ⟨t', h⟩
      rw [Runs.run_cons, Runs.run_cons, step, h]
      exact ih (step F x c) t'

end Trace

/-- What the constructor does with a device, one after the other: a call of a script,
    the call for the second script, or a message. -/
inductive SetupStep where
  | call (c : ScriptCall)
  | simulationScript
  | message (mode : LogMode) (text : String)

/-- The script call a step is, if it is one. -/
def SetupStep.scriptCall : SetupStep → Option ScriptCall
  | .call c => some c
  | _ => none

/-- The effect of a step. -/
def setupStep (F : Framework) (x : Ctx) : SetupStep → Ctx
  | .call c => step F x c
  | .simulationScript => x.simulationScript.1
  | .message mode text => x.log mode text

/-- The steps of a constructor whose scripts come through. -/
def setupSteps : Option SetupScript → List SetupStep
  | none => []
  | some s =>
      s.setup.calls.map .call ++ .simulationScript :: (chunkCalls s.simulation).map .call

/-- Running a chunk, if there is one, and then `next`, unless it fails or crashes. -/
def reporting (F : Framework) (e : Engine) (chunk : Option Chunk)
    (next : Engine → Engine × ScriptEnd) : Engine × ScriptEnd :=
  match runChunk F e chunk with
  | (e, .crashed) => (e, .crashed)
  | (e, .failed v) => scriptError F e v
  | (e, .finished) => next e

/-- The part of `RunScript` after the setup script. -/
def simulating (F : Framework) (simulation : Option Chunk) (e : Engine) : Engine × ScriptEnd :=
  match e.ctx.simulationScript with
  | (x, false) => ({ e with ctx := x }, .crashed)
  | (x, true) => reporting F { e with ctx := x } simulation fun e => (e, .returned true)

section Scripts

variable (F : Framework)

/-- `RunScript` with its engine, as two chunks one after the other. -/
theorem runScript_reporting {newstate : Option Nat} {e : Engine} {top : Nat}
    (htop : e.mpLua.or newstate = some top) (setup simulation : Option Chunk) :
    runScript F newstate setup simulation e =
      reporting F { e with mpLua := some top } setup (simulating F simulation) := by
  unfold runScript
  rw [htop]
  rfl

/-- The calls of a chunk are made one after the other, up to one that crashes. -/
theorem runCalls_run (x : Ctx) (calls : List ScriptCall) :
    ∃ pre post, calls = pre ++ post ∧ (runCalls F x calls).1 = Runs.run (step F) x pre ∧
      ((runCalls F x calls).2 = true → post = []) := by
  induction calls generalizing x with
  | nil => exact ⟨[], [], rfl, rfl, fun _ => rfl⟩
  | cons c cs ih =>
      unfold runCalls
      split
      · exact ⟨[c], cs, rfl, rfl, fun h => absurd h Bool.false_ne_true⟩
      · rcases ih (step F x c) with ⟨pre, post, hcalls, hctx, hall⟩
        exact ⟨c :: pre, post, by rw [hcalls, List.cons_append], hctx, hall⟩

/-- The calls of a chunk, if there is one, are all made unless it crashes. -/
theorem runChunk_run (e : Engine) (chunk : Option Chunk) :
    ∃ pre post, chunkCalls chunk = pre ++ post ∧
      (runChunk F e chunk).1.ctx = Runs.run (step F) e.ctx pre ∧
        ((runChunk F e chunk).2 ≠ .crashed → post = []) := by
  rcases chunk with _ | ⟨calls, ending⟩
  · exact ⟨[], [], rfl, rfl, fun _ => rfl⟩
  · rcases runCalls_run F e.ctx calls with ⟨pre, post, hcalls, hctx, hall⟩
    refine ⟨pre, post, hcalls, ?_⟩
    rcases hrun : runCalls F e.ctx calls with ⟨x, _ | _⟩
    · rw [hrun] at hctx
      simp only [runChunk, hrun]
      exact ⟨hctx, fun h => absurd rfl h⟩
    · rw [hrun] at hctx hall
      simp only [runChunk, hrun]
      cases ending with
      | ok n => exact ⟨hctx, fun _ => hall rfl⟩
      | error v => exact ⟨hctx, fun _ => hall rfl⟩

theorem filterMap_calls (calls : List ScriptCall) :
    (calls.map SetupStep.call).filterMap SetupStep.scriptCall = calls := by
  rw [List.filterMap_map]
  exact List.filterMap_some

theorem scriptCalls_setupSteps (script : Option SetupScript) :
    (setupSteps script).filterMap SetupStep.scriptCall = scriptCalls script := by
  cases script with
  | none => rfl
  | some s =>
      rw [setupSteps, List.filterMap_append, filterMap_calls, List.filterMap_cons_none rfl,
        filterMap_calls]
      rfl

theorem run_calls (x : Ctx) (calls : List ScriptCall) :
    Runs.run (setupStep F) x (calls.map .call) = Runs.run (step F) x calls := by
  unfold Runs.run
  rw [List.foldl_map]
  rfl

/-- A message at most is what an error of a script leaves of the device. -/
theorem scriptError_steps (e : Engine) (v : LuaRef) :
    ∃ ops, (scriptError F e v).1.ctx = Runs.run (setupStep F) e.ctx ops ∧
      ops.filterMap SetupStep.scriptCall = [] ∧ (scriptError F e v).2 ≠ .returned true := by
  unfold scriptError
  split
  · exact ⟨[.message _ _], rfl, rfl, fun h => Bool.noConfusion (ScriptEnd.returned.inj h)⟩
  · exact ⟨[], rfl, rfl, ScriptEnd.noConfusion⟩

/-- A chunk ends `RunScript` after some of its calls, or it makes all of them and
    `next` goes on from there. -/
theorem reporting_steps (e : Engine) (chunk : Option Chunk) (next : Engine → Engine × ScriptEnd) :
    (∃ ops post, chunkCalls chunk = ops.filterMap SetupStep.scriptCall ++ post ∧
        (reporting F e chunk next).1.ctx = Runs.run (setupStep F) e.ctx ops ∧
        (reporting F e chunk next).2 ≠ .returned true) ∨
      ∃ e', e'.ctx = Runs.run (setupStep F) e.ctx ((chunkCalls chunk).map .call) ∧
        reporting F e chunk next = next e' := by
  rcases runChunk_run F e chunk with ⟨pre, post, hcalls, hctx, hall⟩
  rw [← run_calls] at hctx
  unfold reporting
  split
  · rename_i e' hrun
    rw [hrun] at hctx
    exact Or.inl ⟨_, post, by rw [filterMap_calls, hcalls], hctx, ScriptEnd.noConfusion⟩
  · rename_i e' v hrun
    rw [hrun] at hctx
    rcases scriptError_steps F e' v with ⟨ops, hops, hnone, hend⟩
    refine Or.inl ⟨pre.map .call ++ ops, post, ?_, ?_, hend⟩
    · rw [List.filterMap_append, filterMap_calls, hnone, List.append_nil, hcalls]
    · rw [hops, hctx, ← Runs.run_append]
  · rename_i e' hrun
    rw [hrun] at hctx hall
    rw [hall ChunkEnd.noConfusion, List.append_nil] at hcalls
    exact Or.inr ⟨e', by rw [hcalls]; exact hctx, rfl⟩

/-- What `RunScript` does with the device, up to where it stops. -/
theorem runScript_steps (newstate : Option Nat) (s : SetupScript) (e : Engine) :
    ∃ ops post, scriptCalls (some s) = ops.filterMap SetupStep.scriptCall ++ post ∧
      (runScript F newstate (some s.setup) s.simulation e).1.ctx =
        Runs.run (setupStep F) e.ctx ops ∧
      ((runScript F newstate (some s.setup) s.simulation e).2 = .returned true →
        ops = setupSteps (some s)) := by
  rcases htop : e.mpLua.or newstate with _ | top
  · unfold runScript
    rw [htop]
    exact ⟨[.message _ _], _, rfl, rfl, fun h => Bool.noConfusion (ScriptEnd.returned.inj h)⟩
  rw [runScript_reporting F htop]
  rcases reporting_steps F { e with mpLua := some top } (some s.setup) (simulating F s.simulation)
    with ⟨ops, post, hcalls, hctx, hend⟩ | ⟨e', he', hnext⟩
  · refine ⟨ops, post ++ chunkCalls s.simulation, ?_, hctx, fun h => absurd h hend⟩
    rw [← List.append_assoc, ← hcalls]
    rfl
  -- The first script has come to its end, so its calls have all been made.
  have hsystem : e'.ctx.simulationScript.1 =
      Runs.run (setupStep F) e.ctx (s.setup.calls.map .call ++ [.simulationScript]) := by
    rw [Runs.run_append]
    exact congrArg (fun x : Ctx => x.simulationScript.1) he'
  have hmade : List.filterMap SetupStep.scriptCall
      (s.setup.calls.map .call ++ [.simulationScript]) = s.setup.calls := by
    rw [List.filterMap_append, filterMap_calls]
    exact List.append_nil _
  rw [hnext]
  unfold simulating
  split
  · rename_i y hy
    rw [hy] at hsystem
    exact ⟨_, chunkCalls s.simulation, by rw [hmade]; rfl, hsystem, ScriptEnd.noConfusion⟩
  · rename_i y hy
    rw [hy] at hsystem
    have hy' : y = Runs.run (setupStep F) e.ctx
      (s.setup.calls.map .call ++ [.simulationScript]) := hsystem
    -- The second chunk goes on from there, and the same can happen to it.
    rcases reporting_steps F { e' with ctx := y } s.simulation fun e => (e, .returned true)
      with ⟨ops, post, hcalls, hctx, hend⟩ | ⟨e'', he'', hnext'⟩
    · refine ⟨s.setup.calls.map .call ++ [.simulationScript] ++ ops, post, ?_, ?_,
        fun h => absurd h hend⟩
      · rw [List.filterMap_append, hmade, List.append_assoc, ← hcalls]
        rfl
      · rw [Runs.run_append, ← hy']
        exact hctx
    · rw [hnext']
      refine ⟨setupSteps (some s), [], ?_, ?_, fun _ => rfl⟩
      · rw [scriptCalls_setupSteps, List.append_nil]
      · rw [setupSteps, ← List.singleton_append, ← List.append_assoc, Runs.run_append, ← hy']
        exact he''

/-- The steps of the constructor, which are all of them if it returns. -/
theorem construct_steps (script : Option SetupScript) (x : Ctx) :
    ∃ ops post, scriptCalls script = ops.filterMap SetupStep.scriptCall ++ post ∧
      (construct F script x).1 = Runs.run (setupStep F) x ops ∧
      ((construct F script x).2 = .returned true → ops = setupSteps script) := by
  cases script with
  | none => exact ⟨[], [], rfl, rfl, fun _ => rfl⟩
  | some s => exact runScript_steps F s.newstate s { ctx := x, mpLua := none }

/-- What every step keeps is kept by the constructor. -/
theorem construct_preserves {P : Ctx → Prop} (hstep : ∀ x c, P x → P (step F x c))
    (hsimulation : ∀ x, P x → P x.simulationScript.1)
    (hlog : ∀ x mode text, P x → P (x.log mode text)) (script : Option SetupScript) {x : Ctx}
    (h : P x) : P (construct F script x).1 := by
  rcases construct_steps F script x with ⟨ops, _, _, hctx, _⟩
  rw [hctx]
  refine Runs.run_preserves (setupStep F) (fun y op hy => ?_) x ops h
  cases op with
  | call c => exact hstep y c hy
  | simulationScript => exact hsimulation y hy
  | message mode text => exact hlog y mode text hy

/-- Up to the trace, only the script calls among the steps matter. -/
theorem run_setupStep (x : Ctx) (ops : List SetupStep) :
    ∃ t, Runs.run (setupStep F) x ops =
      (Runs.run (step F) x (ops.filterMap SetupStep.scriptCall)).withTrace t := by
  induction ops generalizing x with
  | nil => exact ⟨x.world.trace, rfl⟩
  | cons op ops ih =>
      rcases ih (setupStep F x op) with ⟨t, ht⟩
      rw [Runs.run_cons, ht]
      cases op with
      | call c => exact ⟨t, rfl⟩
      | simulationScript =>
          have hctx : ∃ t', x.simulationScript.1 = x.withTrace t' := by
            unfold Ctx.simulationScript
            split
            · exact ⟨_, rfl⟩
            · exact ⟨_, rfl⟩
          rcases hctx with ⟨t', hctx⟩
          rcases run_withTrace F x t' (ops.filterMap SetupStep.scriptCall) with ⟨t'', hrun⟩
          refine ⟨t, ?_⟩
          rw [setupStep, hctx, hrun]
          rfl
      | message mode text =>
          rcases run_withTrace F x (x.world.trace ++ [.log mode text])
            (ops.filterMap SetupStep.scriptCall) with ⟨t'', hrun⟩
          refine ⟨t, ?_⟩
          have hctx : setupStep F x (.message mode text) =
              x.withTrace (x.world.trace ++ [.log mode text]) := rfl
          rw [hctx, hrun]
          rfl

/-- The device after its constructor is the one after the calls its scripts have made,
    which are all of them if the constructor returns. -/
theorem construct_run (script : Option SetupScript) (x : Ctx) :
    ∃ pre post t, scriptCalls script = pre ++ post ∧
      (construct F script x).1 = (Runs.run (step F) x pre).withTrace t ∧
      ((construct F script x).2 = .returned true → post = []) := by
  rcases construct_steps F script x with ⟨ops, post, hcalls, hctx, hall⟩
  rcases run_setupStep F x ops with ⟨t, ht⟩
  refine ⟨_, post, t, hcalls, hctx.trans ht, fun h => ?_⟩
  rw [hall h, scriptCalls_setupSteps] at hcalls
  exact List.append_right_eq_self.mp hcalls.symm

/-- A constructor that returns has made all calls. -/
theorem construct_returned {script : Option SetupScript} {x : Ctx}
    (h : (construct F script x).2 = .returned true) :
    ∃ t, (construct F script x).1 = (Runs.run (step F) x (scriptCalls script)).withTrace t := by
  rcases construct_run F script x with ⟨pre, post, t, hcalls, hctx, hall⟩
  rw [hall h, List.append_nil] at hcalls
  exact ⟨t, hcalls ▸ hctx⟩

section Starts

variable {F} {p : Process} {d : Nat} {script : Option SetupScript} (h : p.Starts F d script)

include h

theorem Process.Starts.deviceRealize (initOk : Bool) :
    p.deviceRealize F d script initOk = (p.created F d script).setup d p.objects initOk := by
  unfold Process.deviceRealize
  rw [h.through]
  rfl

/-- The parameters `device_realize` reads are those after all script calls. -/
theorem Process.Starts.param : (p.created F d script).param =
    (Runs.run (step F) (p.scriptStart d) (scriptCalls script)).param := by
  rcases construct_returned F h.through with ⟨t, ht⟩
  have hread : (p.created F d script).param = (construct F script (p.scriptStart d)).1.param := rfl
  rw [hread, ht]
  rfl

end Starts

end Scripts

/-- The ways a device operation can go. A realize gets past its scripts, or they end
    the process, or there is nothing to do; an exit finds a realized device or not. -/
inductive DeviceEffect (F : Framework) (p : Process) : DeviceOp → Process → Prop where
  | realized {d : Nat} {script : Option SetupScript} (initOk : Bool) (h : p.Starts F d script) :
      DeviceEffect F p (.realize d script initOk) ((p.created F d script).setup d p.objects initOk)
  | halted {d : Nat} {script : Option SetupScript} {initOk : Bool} (hrunning : p.ended = none)
      (h : ¬ p.Starts F d script) (f : ProcessEnd) :
      DeviceEffect F p (.realize d script initOk) { p.constructed F d script with ended := some f }
  | unrealized {d : Nat} {script : Option SetupScript} {initOk : Bool}
      (h : ¬ p.Starts F d script) : DeviceEffect F p (.realize d script initOk) p
  | exited {d : Nat} {dev : Device} (hrunning : p.ended = none) (hd : p.devices d = some dev) :
      DeviceEffect F p (.exit d) (p.deviceExit d dev)
  | unexited {d : Nat} (h : p.ended = none → p.devices d = none) : DeviceEffect F p (.exit d) p

/-- Every device operation goes one of these ways. -/
theorem deviceStep_effect (F : Framework) (p : Process) (op : DeviceOp) :
    DeviceEffect F p op (deviceStep F p op) := by
  rcases hrunning : p.ended with _ | f
  · cases op with
    | realize d script initOk =>
        rcases hd : p.devices d with _ | dev
        · simp only [deviceStep, hrunning, hd, Process.deviceRealize]
          rcases hend : (construct F script (p.scriptStart d)).2 with b | _ | _
          · cases b with
            | true => exact .realized initOk ⟨hrunning, hd, hend⟩
            | false =>
                refine .halted hrunning (fun h => ?_) .exited
                exact Bool.noConfusion (ScriptEnd.returned.inj (hend.symm.trans h.through))
          · refine .halted hrunning (fun h => ?_) .aborted
            exact ScriptEnd.noConfusion (hend.symm.trans h.through)
          · refine .halted hrunning (fun h => ?_) .crashed
            exact ScriptEnd.noConfusion (hend.symm.trans h.through)
        · simp only [deviceStep, hrunning, hd]
          exact .unrealized fun h => Option.some_ne_none dev (hd.symm.trans h.unrealized)
    | exit d =>
        rcases hd : p.devices d with _ | dev
        · simp only [deviceStep, hrunning, hd]
          exact .unexited fun _ => hd
        · simp only [deviceStep, hrunning, hd]
          exact .exited hrunning hd
  · simp only [deviceStep, hrunning]
    cases op with
    | realize d script initOk =>
        exact .unrealized fun h => Option.some_ne_none f (hrunning.symm.trans h.running)
    | exit d => exact .unexited fun h => absurd (hrunning.symm.trans h) (Option.some_ne_none f)

/-- A setup script that loads a module, makes the calls, and ends normally. The module
    has no script. -/
def loadedScript (calls : List ScriptCall) : Option SetupScript :=
  some
    { newstate := some 0
      setup :=
        { calls := .loadSystemModule "system.so" (.success (ISystemSim.flat 0 0 0)) :: calls
          ending := .ok 0 }
      simulation := none }

end QemuTestdrive
