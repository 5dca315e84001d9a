import QemuTestdrive.Theory.Construction
import QemuTestdrive.Theory.InterruptConfig

/-!
# Setting Up and Undoing the Interrupt Mechanism

Each device is set up with an interrupt mechanism, and QEMU keeps it for the
life of the device. The program keeps no record of it. It has one notify
function for all devices, and `device_exit` looks at the global parameters to
decide what to undo, so both are right for a device only while nothing else has
changed them.

A realize changes both: its scripts can select another mechanism, and a
successful `msix_init` switches the notify function, which nothing switches
back. `realized_spec` is the whole effect of a realize on the devices, the notify
function and the parameters, and the rest is a comparison of the mechanism
selected with those of the devices there are. Scripts that end the process leave
no device whose exit could go wrong.

## Main definitions

* `Mechanism.teardown`: The call that undoes a mechanism.
* `Mechanism.Notifies`: The notify function a mechanism needs.
* `MechanismsMatch`: Notify function and teardown are right for every device.
* `selected`: The mechanism a realize selects.
* `Mechanism.Alike`: The same mechanism, with the same BAR.
* `KeepsMechanisms`: An operation that keeps them right.

## Theorems

* `qemuCalls_deviceExit`: What `device_exit` undoes.
* `realized_spec`: What a realize does to the shared state.
* `mechanismsMatch_step`: When an operation keeps everything right.
* `mechanismsMatch_run`: When a whole run does.
-/

namespace QemuTestdrive

/-- The call into QEMU an event is, if it is one. -/
def Event.qemuCall : Event → Option QemuCall
  | .qemu call => some call
  | _ => none

/-- The calls into QEMU made so far. -/
def World.qemuCalls (w : World) : List QemuCall :=
  w.trace.filterMap Event.qemuCall

/-- The call that undoes a mechanism. -/
def Mechanism.teardown : Mechanism → List QemuCall
  | .none => []
  | .msi _ => [.msiUninit]
  | .msix _ iBar => [.msixUninit iBar]

/-- The notify function `fn` is the one of the mechanism. -/
def Mechanism.Notifies (fn : NotifyFn) : Mechanism → Prop
  | .none => True
  | .msi _ => fn = .msiNotify
  | .msix _ _ => fn = .msixNotify

/-- For a realized device, the notify function is the one of its mechanism, and
    its `device_exit` undoes that mechanism and nothing else. -/
structure DeviceMatches (p : Process) (d : Nat) (dev : Device) : Prop where
  notify : dev.mechanism.Notifies p.notify
  teardown : (p.deviceExit d dev).world.qemuCalls =
    p.world.qemuCalls ++ dev.mechanism.teardown

/-- Notify function and teardown are right for every realized device. -/
def MechanismsMatch (p : Process) : Prop :=
  ∀ d dev, p.devices d = some dev → DeviceMatches p d dev

/-- The mechanism a realize selects: that of the last accepted call of its
    scripts, or the one that was selected before. -/
def selected (F : Framework) (p : Process) (d : Nat) (script : Option SetupScript) : Mechanism :=
  (established p.param.interrupt
    (lastAccepted F (p.scriptStart d) (scriptCalls script))).mechanism

/-- The same mechanism, with the same BAR. -/
def Mechanism.Alike : Mechanism → Mechanism → Prop
  | .none, .none => True
  | .msi _, .msi _ => True
  | .msix _ iBar, .msix _ iBar' => iBar = iBar'
  | _, _ => False

/-- A realize that gets past its scripts selects the mechanism of all realized
    devices. If that is MSI, its initialisation succeeds, and no MSI-X has switched the
    notify function. -/
def KeepsMechanisms (F : Framework) (p : Process) : DeviceOp → Prop
  | .realize d script initOk =>
      p.Starts F d script →
        (∀ e dev, p.devices e = some dev → dev.mechanism.Alike (selected F p d script)) ∧
          ∀ n, selected F p d script = .msi n → initOk = true ∧ p.notify = .msiNotify
  | .exit _ => True

theorem alike_iff_teardown (a b : Mechanism) : a.Alike b ↔ b.teardown = a.teardown := by
  cases a with
  | none =>
      cases b with
      | none => exact iff_of_true trivial rfl
      | msi n => exact iff_of_false id (List.cons_ne_nil _ _)
      | msix n iBar => exact iff_of_false id (List.cons_ne_nil _ _)
  | msi m =>
      cases b with
      | none => exact iff_of_false id (List.cons_ne_nil _ _).symm
      | msi n => exact iff_of_true trivial rfl
      | msix n iBar =>
          exact iff_of_false id fun h => QemuCall.noConfusion (List.head_eq_of_cons_eq h)
  | msix m jBar =>
      cases b with
      | none => exact iff_of_false id (List.cons_ne_nil _ _).symm
      | msi n => exact iff_of_false id fun h => QemuCall.noConfusion (List.head_eq_of_cons_eq h)
      | msix n iBar =>
          simp only [Mechanism.Alike, Mechanism.teardown, List.cons.injEq,
            QemuCall.msixUninit.injEq, and_true]
          exact eq_comm

theorem uninitCalls_eq (i : Interrupt) : uninitCalls i = i.mechanism.teardown := by
  unfold uninitCalls Interrupt.mechanism
  by_cases hcount : i.vectorCount ≠ 0
  · rw [if_pos hcount, if_pos hcount]
    by_cases hext : i.extend.bEnable = true
    · rw [if_pos hext, if_pos hext]
      rfl
    · rw [if_neg hext, if_neg hext]
      rfl
  · rw [if_neg hcount, if_neg hcount]
    rfl

namespace Process

theorem qemuCalls_qemu (p : Process) (calls : List QemuCall) :
    (p.qemu calls).world.qemuCalls = p.world.qemuCalls ++ calls := by
  rw [qemu_eq]
  unfold World.qemuCalls
  rw [List.filterMap_append, List.filterMap_map]
  have hid : Event.qemuCall ∘ Event.qemu = some := rfl
  rw [hid, List.filterMap_some]

end Process

theorem qemuCalls_emit (w : World) (e : Event) (he : e.qemuCall = none) :
    (w.emit e).qemuCalls = w.qemuCalls := by
  unfold World.qemuCalls World.emit
  rw [List.filterMap_append, List.filterMap_cons_none he, List.filterMap_nil, List.append_nil]

theorem qemuCalls_destructor (x : Ctx) : x.destructor.world.qemuCalls = x.world.qemuCalls := by
  -- Releasing the system and the library makes no call into QEMU.
  have hrelease : x.safeRelease.world.qemuCalls = x.world.qemuCalls := by
    unfold Ctx.safeRelease
    cases x.this.mpSystem with
    | none => rfl
    | some s => exact qemuCalls_emit x.world _ rfl
  unfold Ctx.destructor Ctx.freeModule
  rw [← hrelease]
  cases x.safeRelease.this.mhSystemImpModule with
  | none => rfl
  | some h => exact qemuCalls_emit x.safeRelease.world _ rfl

/-- `device_exit` undoes what the global parameters select. -/
theorem qemuCalls_deviceExit (p : Process) (d : Nat) (dev : Device) :
    (p.deviceExit d dev).world.qemuCalls =
      p.world.qemuCalls ++ p.param.interrupt.mechanism.teardown := by
  rw [← uninitCalls_eq, ← Process.qemuCalls_qemu]
  unfold Process.deviceExit
  simp only
  cases (p.qemu (uninitCalls p.param.interrupt)).drives dev.pTestDrive with
  | none => rfl
  | some t => exact qemuCalls_destructor _

theorem deviceMatches_iff (p : Process) (d : Nat) (dev : Device) :
    DeviceMatches p d dev ↔
      dev.mechanism.Notifies p.notify ∧ dev.mechanism.Alike p.param.interrupt.mechanism := by
  rw [alike_iff_teardown]
  constructor
  · intro h
    have hcalls := h.teardown
    rw [qemuCalls_deviceExit] at hcalls
    exact ⟨h.notify, List.append_cancel_left hcalls⟩
  · intro h
    exact ⟨h.1, by rw [qemuCalls_deviceExit, h.2]⟩

/-- The mechanism QEMU has for a device once its setup has ended, if the device
    is realized. -/
def Mechanism.outcome (m : Mechanism) (initOk : Bool) : Option Mechanism :=
  match m with
  | .none => some .none
  | .msi n => some (if initOk then .msi n else .none)
  | .msix n iBar => if initOk then some (.msix n iBar) else Option.none

/-- The notify function once the setup of the mechanism has ended. -/
def Mechanism.switch (m : Mechanism) (initOk : Bool) (fn : NotifyFn) : NotifyFn :=
  match m with
  | .msix _ _ => if initOk then .msixNotify else fn
  | _ => fn

/-- A realized device is another one than a device that is not. -/
theorem ne_of_realized {p : Process} {d e : Nat} {dev : Device} (hd : p.devices d = none)
    (he : p.devices e = some dev) : e ≠ d := by
  intro heq
  rw [heq, hd] at he
  exact Option.some_ne_none dev he.symm

/-- A device that is there after an exit was there before, and is another one. -/
theorem left_by_exit {p : Process} {d e : Nat} {dev dev' : Device}
    (he : (p.deviceExit d dev).devices e = some dev') : e ≠ d ∧ p.devices e = some dev' := by
  rw [(Process.deviceExit_spec p d dev).1 e] at he
  by_cases hed : e = d
  · rw [if_pos hed] at he
    exact absurd he (Option.some_ne_none dev').symm
  · rw [if_neg hed] at he
    exact ⟨hed, he⟩

section Realize

variable {F : Framework} {p : Process} {d : Nat} {script : Option SetupScript}
variable (hstarts : p.Starts F d script) (initOk : Bool)

include hstarts

theorem created_mechanism :
    (p.created F d script).param.interrupt.mechanism = selected F p d script := by
  rw [hstarts.param]
  exact (interrupt_run F (scriptCalls script) (p.scriptStart d)).mechanism_eq

/-- What a realize does to the devices, the notify function and the mechanism
    the parameters select. -/
theorem realized_spec :
    (∀ e, ((p.created F d script).setup d p.objects initOk).devices e =
        if e = d then ((selected F p d script).outcome initOk).map fun m =>
          { pTestDrive := p.objects, mechanism := m }
        else p.devices e) ∧
      ((p.created F d script).setup d p.objects initOk).notify =
        (selected F p d script).switch initOk p.notify ∧
      ((p.created F d script).setup d p.objects initOk).param.interrupt.mechanism =
        selected F p d script := by
  -- The scripts change neither the devices nor the notify function.
  rw [← created_mechanism hstarts]
  have hd := hstarts.unrealized
  have hdevices : (p.created F d script).devices = p.devices := rfl
  have hnotify : (p.created F d script).notify = p.notify := rfl
  unfold Process.setup
  generalize p.created F d script = q at hdevices hnotify ⊢
  simp only [Process.qemu_eq, Process.setDevice]
  rcases hm : q.param.interrupt.mechanism with _ | n | ⟨n, iBar⟩
  · refine ⟨fun e => ?_, hnotify, hm⟩
    rw [← hdevices]
    rfl
  · refine ⟨fun e => ?_, hnotify, hm⟩
    rw [← hdevices]
    rfl
  · cases initOk with
    | true =>
        refine ⟨fun e => ?_, rfl, hm⟩
        rw [← hdevices]
        rfl
    | false =>
        -- A failing `msix_init` ends the realize, and the device is not there.
        refine ⟨fun e => ?_, hnotify, hm⟩
        by_cases he : e = d
        · rw [if_pos he, he]
          exact (congrFun hdevices d).trans hd
        · rw [if_neg he, ← hdevices]
          rfl

/-- A realize keeps everything right exactly when it selects the mechanism of the
    devices there are, and can set it up. -/
theorem mechanismsMatch_realize (h : MechanismsMatch p) :
    MechanismsMatch ((p.created F d script).setup d p.objects initOk) ↔
      (∀ e dev, p.devices e = some dev → dev.mechanism.Alike (selected F p d script)) ∧
        ∀ n, selected F p d script = .msi n → initOk = true ∧ p.notify = .msiNotify := by
  -- With the effect of the realize known, the question is about one mechanism `m`.
  have hd := hstarts.unrealized
  rcases realized_spec hstarts initOk with ⟨hdevices, hnotify, hmech⟩
  unfold MechanismsMatch
  simp only [deviceMatches_iff, hnotify, hmech, hdevices]
  generalize selected F p d script = m
  constructor
  · intro hq
    refine ⟨fun e dev he => ?_, fun n hn => ?_⟩
    · exact (hq e dev (by rw [if_neg (ne_of_realized hd he)]; exact he)).2
    · -- The new device itself: without its MSI there would be something to undo.
      subst hn
      have hnew := hq d _ (if_pos rfl)
      cases initOk with
      | true => exact ⟨rfl, hnew.1⟩
      | false => exact absurd hnew.2 id
  · intro hc e dev he
    rcases hc with ⟨holds, hmsi⟩
    by_cases hed : e = d
    · -- The new device: its own mechanism, if it could be set up.
      rw [if_pos hed] at he
      rcases Option.map_eq_some_iff.mp he with ⟨m', hout, rfl⟩
      cases m with
      | none =>
          rw [← Option.some.inj hout]
          exact ⟨trivial, trivial⟩
      | msi n =>
          rcases hmsi n rfl with ⟨rfl, hfn⟩
          rw [← Option.some.inj hout]
          exact ⟨hfn, trivial⟩
      | msix n iBar =>
          cases initOk with
          | true =>
              rw [← Option.some.inj hout]
              exact ⟨rfl, rfl⟩
          | false => exact absurd hout (Option.some_ne_none m').symm
    · rw [if_neg hed] at he
      have hold := ((deviceMatches_iff p e dev).mp (h e dev he)).1
      have halike := holds e dev he
      refine ⟨?_, halike⟩
      cases m with
      | none => exact hold
      | msi n => exact hold
      | msix n iBar =>
          cases initOk with
          | false => exact hold
          | true =>
              -- The devices there are have MSI-X too, so the switch is theirs.
              rcases dev with ⟨t, _ | k | ⟨k, jBar⟩⟩
              · exact trivial
              · exact absurd halike id
              · rfl

end Realize

/-- While the process runs, an operation keeps everything right exactly when it keeps
    the mechanisms. -/
theorem mechanismsMatch_step (F : Framework) (p : Process) (op : DeviceOp)
    (h : p.ended = none → MechanismsMatch p) :
    ((deviceStep F p op).ended = none → MechanismsMatch (deviceStep F p op)) ↔
      KeepsMechanisms F p op := by
  have heffect := deviceStep_effect F p op
  generalize deviceStep F p op = q at heffect ⊢
  cases heffect with
  | @realized d script initOk hstarts =>
      have hended := (Process.setup_ended (p.created F d script) d p.objects initOk).trans
        hstarts.running
      rw [forall_prop_of_true hended, mechanismsMatch_realize hstarts initOk (h hstarts.running)]
      exact ⟨fun hkeeps _ => hkeeps, fun hkeeps => hkeeps hstarts⟩
  | halted _ hstarts f =>
      exact iff_of_true (fun hended => absurd hended (Option.some_ne_none f))
        fun hs => absurd hs hstarts
  | unrealized hstarts => exact iff_of_true h fun hs => absurd hs hstarts
  | @exited d dev hrunning _ =>
      refine iff_of_true (fun _ e dev' he => ?_) trivial
      -- The devices that are left see the same notify function and parameters.
      rcases Process.deviceExit_spec p d dev with ⟨_, hnotify, hparam, _⟩
      rw [deviceMatches_iff, hnotify, hparam, ← deviceMatches_iff]
      exact h hrunning e dev' (left_by_exit he).2
  | unexited _ => exact iff_of_true h trivial

/-- From the start of the process, notify function and teardown are right in
    every state reached, as long as the process runs, exactly when every realize
    selects the mechanism of the devices there are, and can set it up. -/
theorem mechanismsMatch_run (F : Framework) (ops : List DeviceOp) :
    Runs.Always (deviceStep F) (fun p => p.ended = none → MechanismsMatch p) Process.start ops ↔
      Runs.Each (deviceStep F) (KeepsMechanisms F) Process.start ops := by
  refine Runs.always_iff_each (deviceStep F) (I := fun _ => True) (fun _ _ _ => trivial)
    (fun p op _ h => mechanismsMatch_step F p op h) ops Process.start trivial fun _ d dev hd => ?_
  exact absurd hd (Option.some_ne_none dev).symm

/-- A device with MSI-X and then one with MSI. -/
def msixThenMsi : List DeviceOp :=
  [.realize 0 (loadedScript (msixScript 16)) true,
    .realize 1 (loadedScript [.enableMSI 4 false]) true]

/-- Both devices are realized. The first has MSI-X, but its exit would undo MSI;
    the second has MSI, but the notify function is that of MSI-X. -/
theorem mechanisms_mixed :
    ¬ MechanismsMatch (Runs.run (deviceStep Framework.standard) Process.start msixThenMsi) ∧
      (Runs.run (deviceStep Framework.standard) Process.start msixThenMsi).ended = none ∧
      (Runs.run (deviceStep Framework.standard) Process.start msixThenMsi).devices 0 =
        some { pTestDrive := 0, mechanism := .msix 16 0 } ∧
      uninitCalls (Runs.run (deviceStep Framework.standard) Process.start
        msixThenMsi).param.interrupt = [.msiUninit] ∧
      (Runs.run (deviceStep Framework.standard) Process.start msixThenMsi).devices 1 =
        some { pTestDrive := 1, mechanism := .msi 4 } ∧
      (Runs.run (deviceStep Framework.standard) Process.start msixThenMsi).notify =
        .msixNotify := by
  refine ⟨fun h => ?_, rfl, rfl, rfl, rfl, rfl⟩
  have hdev := h 1 { pTestDrive := 1, mechanism := .msi 4 } rfl
  exact NotifyFn.noConfusion hdev.notify

end QemuTestdrive
