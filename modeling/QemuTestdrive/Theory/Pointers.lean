import QemuTestdrive.Lib.Runs
import QemuTestdrive.Core.Access
import QemuTestdrive.Theory.Effects

/-!
# Cached Pointers and the Life of a System

A device keeps host pointers in two places, the direct pointers of its BARs and
the buffer of its display, and both come from the system that is loaded when
they are made. Loading a module again, failing to, and shutting down all
release the system, and none of them looks at the pointers.

Every system object has an identity that is used once. `SystemInv` is what the
identities obey: the current system is not released, and nothing released will
ever be current again. Under it, "every cached pointer comes from the current
system" is the whole of pointer safety, since a pointer to the current system
is a pointer to one that is alive, and no later system can make an old pointer
good again.

## Main definitions

* `Ctx.Cached`: A pointer the device keeps.
* `PointersLive`: Every cached pointer comes from the current system.
* `AccessesLive`: What happens between two states reaches no released system.
* `PointersSafe`: Pointer safety of a state.
* `SystemInv`: What the identities of systems obey.
* `KeepsPointers`: An operation that leaves no pointer behind.

## Theorems

* `systemInv_step`: Every operation keeps the invariant of the identities.
* `pointersSafe_iff`: Pointer safety is about the cached pointers alone.
* `pointersLive_step`: When an operation keeps the cached pointers good.
* `pointersSafe_run`: When a whole run does.
-/

namespace QemuTestdrive

/-- A pointer the device keeps: the direct pointer of a BAR in the map, or the
    display buffer. -/
def Ctx.Cached (x : Ctx) (p : HostPtr) : Prop :=
  (∃ i bar, x.this.mBARs.lookup i = some bar ∧ bar.pMem = some p) ∨
    x.this.display.pBuffer = some p

/-- Every cached pointer comes from the current system. -/
def PointersLive (x : Ctx) : Prop :=
  ∀ p, x.Cached p → ∃ s, x.this.mpSystem = some s ∧ p.sys = s.id

/-- An event that reaches no system released in `w`. -/
def Event.OnLive (w : World) : Event → Prop
  | .memcpy _ p _ => ¬ w.Released p.sys
  | .ioSlave sys _ _ _ => ¬ w.Released sys
  | _ => True

/-- What happens between `x` and `y` reaches no released system. -/
def AccessesLive (x y : Ctx) : Prop :=
  ∃ es, y.world.trace = x.world.trace ++ es ∧ ∀ e ∈ es, e.OnLive x.world

/-- The cached pointers come from the current system, and neither a guest access
    to a BAR nor a refresh of the display reaches a released one. -/
structure PointersSafe (x : Ctx) : Prop where
  live : PointersLive x
  bars : ∀ i bar, x.this.mBARs.lookup i = some bar →
    ∀ (offset val : UInt64) (n : Nat) (io : UInt32),
      AccessesLive x (x.testdriveBarRead bar offset n io).1 ∧
        AccessesLive x (x.testdriveBarWrite bar offset val n io)
  display : ∀ width height, AccessesLive x (x.testdriveDisplayUpdate width height)

/-- The current system is not released, and identities are used once. -/
structure SystemInv (x : Ctx) : Prop where
  current : ∀ s, x.this.mpSystem = some s → s.id < x.world.systems ∧ ¬ x.world.Released s.id
  released : ∀ n, x.world.Released n → n < x.world.systems

/-- The condition on an operation: a load or a shutdown comes when no pointer is
    cached. -/
def KeepsPointers (x : Ctx) : DriveOp → Prop
  | .call (.loadSystemModule _ _) => ∀ p, ¬ x.Cached p
  | .call _ => True
  | .shutdown => ∀ p, ¬ x.Cached p

section Invariant

variable {x y : Ctx}

theorem SystemInv.congr (h : SystemInv x) (hs : y.this.mpSystem = x.this.mpSystem)
    (hn : y.world.systems = x.world.systems)
    (hr : ∀ n, y.world.Released n ↔ x.world.Released n) : SystemInv y := by
  refine ⟨fun s hcur => ?_, fun n hrel => ?_⟩
  · rw [hs] at hcur
    rw [hn, hr]
    exact h.current s hcur
  · rw [hn]
    exact h.released n ((hr n).mp hrel)

theorem SystemInv.quiet (h : SystemInv x) (hq : Quiet x y) : SystemInv y :=
  h.congr (by rw [hq.this]) hq.systems hq.released

theorem systemInv_emit (h : SystemInv x) (e : Event) (he : ∀ s, e ≠ .release s) :
    SystemInv (x.emit e) :=
  h.quiet (quiet_emit x e he)

theorem systemInv_safeRelease (h : SystemInv x) : SystemInv x.safeRelease := by
  unfold Ctx.safeRelease
  rcases hs : x.this.mpSystem with _ | s
  · exact h
  · refine ⟨fun t ht => ?_, fun n hn => ?_⟩
    · simp only [Ctx.emit_this, reduceCtorEq] at ht
    · -- Released before, or just now, and then it was the current system.
      rcases (released_emit x.world (.release s.id) n).mp hn with hold | hnew
      · exact h.released n hold
      · rw [← Event.release.inj hnew]
        exact (h.current s hs).1

theorem systemInv_freeModule (h : SystemInv x) : SystemInv x.freeModule := by
  unfold Ctx.freeModule
  cases x.this.mhSystemImpModule with
  | none => exact h
  | some m =>
      have hset : SystemInv { x with this := { x.this with mhSystemImpModule := none } } :=
        h.congr rfl rfl fun _ => Iff.rfl
      exact systemInv_emit hset (.freeLibrary m) fun _ => Event.noConfusion

theorem systemInv_openLibrary (h : SystemInv x) (file : String) :
    SystemInv (x.openLibrary file) := by
  unfold Ctx.openLibrary
  refine systemInv_emit ?_ _ fun _ => Event.noConfusion
  exact h.congr rfl rfl fun _ => Iff.rfl

theorem systemInv_setInterrupt (h : SystemInv x) (i : Interrupt) : SystemInv (x.setInterrupt i) :=
  h.congr rfl rfl fun _ => Iff.rfl

theorem systemInv_setDisplay (h : SystemInv x) (d : TestdriveDisplay) :
    SystemInv (x.setDisplay d) :=
  h.congr rfl rfl fun _ => Iff.rfl

/-- A new system gets an identity nothing released has. -/
theorem systemInv_createSystem (h : SystemInv x) (lib : Nat) (sim : ISystemSim) :
    SystemInv (x.createSystem lib sim) := by
  refine systemInv_emit ⟨fun s hs => ?_, fun n hn => ?_⟩ _ fun _ => Event.noConfusion
  · rw [← Option.some.inj hs]
    refine ⟨Nat.lt_succ_self _, fun hrel => ?_⟩
    exact absurd (h.released _ hrel) (Nat.lt_irrefl _)
  · exact Nat.lt_succ_of_lt (h.released n hn)

theorem systemInv_load (h : SystemInv x) (file : String) (o : LoadOutcome) :
    SystemInv (x.loadSystemModule file o).1 := by
  -- The old system is released on every path, before the new library is opened.
  have hfree : SystemInv x.safeRelease.freeModule := systemInv_freeModule (systemInv_safeRelease h)
  have hopen := systemInv_openLibrary hfree file
  cases o with
  | noLibrary =>
      exact systemInv_emit (systemInv_emit hfree _ fun _ => Event.noConfusion) _
        fun _ => Event.noConfusion
  | noEntry => exact systemInv_emit hopen _ fun _ => Event.noConfusion
  | noSystem => exact systemInv_emit hopen _ fun _ => Event.noConfusion
  | initFails sim =>
      -- A system that fails to initialise is the current one when it is released.
      have hcreate := systemInv_createSystem hopen x.safeRelease.freeModule.world.libraries sim
      have hinit := systemInv_emit hcreate
        (.initializeSimulation x.safeRelease.freeModule.world.systems false)
        fun _ => Event.noConfusion
      exact systemInv_emit (systemInv_safeRelease hinit) _ fun _ => Event.noConfusion
  | success sim =>
      have hcreate := systemInv_createSystem hopen x.safeRelease.freeModule.world.libraries sim
      have hinit := systemInv_emit hcreate
        (.initializeSimulation x.safeRelease.freeModule.world.systems true)
        fun _ => Event.noConfusion
      exact systemInv_emit (systemInv_emit hinit _ fun _ => Event.noConfusion) _
        fun _ => Event.noConfusion

theorem systemInv_shutdown (h : SystemInv x) : SystemInv x.shutdown := by
  unfold Ctx.shutdown
  split
  · exact systemInv_safeRelease h
  · exact h

theorem systemInv_effect {F : Framework} {c : ScriptCall} {r : CallResult} (h : SystemInv x)
    (he : Effect F x c y r) : SystemInv y := by
  cases he with
  | quiet hq _ => exact h.quiet hq
  | reset => exact h.congr rfl rfl fun _ => Iff.rfl
  | added hq => exact (h.quiet hq).congr rfl rfl fun _ => Iff.rfl
  | msi _ _ hq => exact (systemInv_setInterrupt h _).quiet hq
  | msix _ _ _ _ hq => exact (systemInv_setInterrupt h _).quiet hq
  | display d _ hq => exact (systemInv_setDisplay h d).quiet hq
  | load file o => exact systemInv_load h file o

end Invariant

theorem systemInv_step (F : Framework) (x : Ctx) (op : DriveOp) (h : SystemInv x) :
    SystemInv (driveStep F x op) := by
  cases op with
  | call c => exact systemInv_effect h (exec_effect F x c)
  | shutdown => exact systemInv_shutdown h

section Access

variable {x : Ctx}

/-- A cached pointer of the current system leads to a system that is alive. -/
theorem PointersLive.not_released (h : PointersLive x) (hinv : SystemInv x) {p : HostPtr}
    (hp : x.Cached p) : ¬ x.world.Released p.sys := by
  rcases h p hp with ⟨s, hs, hsys⟩
  rw [hsys]
  exact (hinv.current s hs).2

theorem accessesLive_refl (x : Ctx) : AccessesLive x x :=
  ⟨[], (List.append_nil _).symm, fun _ he => absurd he List.not_mem_nil⟩

theorem AccessesLive.emit {y : Ctx} (h : AccessesLive x y) (e : Event) (he : e.OnLive x.world) :
    AccessesLive x (y.emit e) := by
  rcases h with ⟨es, hes, hlive⟩
  refine ⟨es ++ [e], ?_, fun a ha => ?_⟩
  · rw [← List.append_assoc, ← hes]
    rfl
  · rcases List.mem_append.mp ha with ha | ha
    · exact hlive a ha
    · rw [List.mem_singleton.mp ha]
      exact he

theorem memIO_accessesLive (hinv : SystemInv x) (bWrite : Bool) (addr : UInt64)
    (val io : UInt32) : AccessesLive x (x.memIO bWrite addr val io).1 := by
  unfold Ctx.memIO
  rcases hs : x.this.mpSystem with _ | s
  · exact accessesLive_refl x
  · exact (accessesLive_refl x).emit _ (hinv.current s hs).2

/-- A guest access to a BAR in the map is as safe as its direct pointer. -/
theorem accessesLive_bar (hinv : SystemInv x) (bar : TestdrivePciBar)
    (hbar : ∀ p, bar.pMem = some p → ¬ x.world.Released p.sys) (offset val : UInt64) (n : Nat)
    (io : UInt32) :
    AccessesLive x (x.testdriveBarRead bar offset n io).1 ∧
      AccessesLive x (x.testdriveBarWrite bar offset val n io) := by
  unfold Ctx.testdriveBarRead Ctx.testdriveBarWrite
  rcases hmem : bar.pMem with _ | p
  · by_cases h4 : n = 4
    · simp only [if_pos h4]
      exact ⟨memIO_accessesLive hinv _ _ _ _, memIO_accessesLive hinv _ _ _ _⟩
    · simp only [if_neg h4]
      exact ⟨(accessesLive_refl x).emit _ trivial, (accessesLive_refl x).emit _ trivial⟩
  · refine ⟨(accessesLive_refl x).emit _ (hbar p hmem), [_], rfl, fun e he => ?_⟩
    rw [List.mem_singleton.mp he]
    exact hbar p hmem

/-- A refresh of the display is as safe as its buffer. -/
theorem accessesLive_display (hbuf : ∀ p, x.this.display.pBuffer = some p →
    ¬ x.world.Released p.sys) (width height : Int32) :
    AccessesLive x (x.testdriveDisplayUpdate width height) := by
  -- A resize happens before the copy, and reaches no memory of a system.
  have hresized : AccessesLive x (x.resizeDisplay width height) := by
    unfold Ctx.resizeDisplay
    simp only
    split
    · have hset : AccessesLive x (x.setDisplay { x.this.display with
          width := width.toUInt32.toUInt16, height := height.toUInt32.toUInt16 }) :=
        accessesLive_refl x
      exact (hset.emit (.qemu _) trivial).emit (.log _ _) trivial
    · exact accessesLive_refl x
  unfold Ctx.testdriveDisplayUpdate
  simp only [Ctx.resizeDisplay_pBuffer]
  rcases hp : x.this.display.pBuffer with _ | p
  · exact (hresized.emit (.nullCopy _) trivial).emit (.qemu _) trivial
  · exact (hresized.emit (.memcpy false p _) (hbuf p hp)).emit (.qemu _) trivial

/-- Under the invariant, pointer safety is about the cached pointers alone. -/
theorem pointersSafe_iff (hinv : SystemInv x) : PointersSafe x ↔ PointersLive x := by
  constructor
  · intro h
    exact h.live
  · intro h
    refine ⟨h, fun i bar hbar offset val n io => ?_, fun width height => ?_⟩
    · refine accessesLive_bar hinv bar (fun p hp => ?_) offset val n io
      exact h.not_released hinv (Or.inl ⟨i, bar, hbar, hp⟩)
    · exact accessesLive_display (fun p hp => h.not_released hinv (Or.inr hp)) width height

end Access

theorem getMemoryPointer_sys {s : SimSystem} {addr : UInt64} {p : HostPtr}
    (h : s.getMemoryPointer addr = some p) : p.sys = s.id := by
  rcases Option.map_eq_some_iff.mp h with ⟨a, _, ha⟩
  rw [← ha]

theorem directPointer_sys {sys : Option SimSystem} {addr size : UInt64} {p : HostPtr}
    (h : directPointer sys addr size = some p) : ∃ s, sys = some s ∧ p.sys = s.id := by
  unfold directPointer at h
  split at h
  · split at h
    · exact ⟨_, rfl, getMemoryPointer_sys h⟩
    · simp only [reduceCtorEq] at h
  · simp only [reduceCtorEq] at h

section Step

variable {F : Framework} {x y : Ctx}

theorem PointersLive.congr (h : PointersLive x) (hthis : y.this = x.this) : PointersLive y := by
  unfold PointersLive Ctx.Cached
  rw [hthis]
  exact h

/-- A call that is not a load keeps the cached pointers good: a pointer it adds
    comes from the current system. -/
theorem pointersLive_effect {c : ScriptCall} {r : CallResult} (he : Effect F x c y r)
    (hc : ∀ file o, c ≠ .loadSystemModule file o) (h : PointersLive x) : PointersLive y := by
  cases he with
  | quiet hq _ => exact h.congr hq.this
  | reset =>
      intro p hp
      rcases hp with ⟨i, bar, hbar, _⟩ | hbuf
      · simp only [Ctx.resetBARs, AList.lookup_empty, reduceCtorEq] at hbar
      · exact h p (Or.inr hbuf)
  | @added z sType size addr b64 pf s a hq _ _ _ _ =>
      have hz : PointersLive z := h.congr hq.this
      intro p hp
      rcases hp with ⟨i, bar, hbar, hmem⟩ | hbuf
      · rcases lookup_placeBAR hbar with ⟨_, rfl⟩ | hold
        · rcases directPointer_sys hmem with ⟨t, ht, hsys⟩
          exact ⟨t, by rw [← ht, ← hq.this]; rfl, hsys⟩
        · exact hz p (Or.inl ⟨i, bar, hold, hmem⟩)
      · exact hz p (Or.inr hbuf)
  | msi _ _ hq => exact (h.congr rfl : PointersLive (x.setInterrupt _)).congr hq.this
  | msix _ _ _ _ hq => exact (h.congr rfl : PointersLive (x.setInterrupt _)).congr hq.this
  | display d hd hq =>
      refine PointersLive.congr (x := x.setDisplay d) (fun p hp => ?_) hq.this
      rcases hp with hbar | hbuf
      · exact h p (Or.inl hbar)
      · have hbuf' : d.pBuffer = some p := hbuf
        -- The new buffer is null, the old one, or a pointer of the current system.
        rcases hd with hnone | hold | ⟨s, addr, hs, hget⟩
        · rw [hnone] at hbuf'
          simp only [reduceCtorEq] at hbuf'
        · exact h p (Or.inr (hold ▸ hbuf'))
        · exact ⟨s, hs, getMemoryPointer_sys (hget ▸ hbuf')⟩
  | load file o => exact absurd rfl (hc file o)

theorem safeRelease_systems (x : Ctx) : x.safeRelease.world.systems = x.world.systems := by
  unfold Ctx.safeRelease
  cases x.this.mpSystem with
  | none => rfl
  | some s => rfl

theorem freeModule_systems (x : Ctx) : x.freeModule.world.systems = x.world.systems := by
  unfold Ctx.freeModule
  cases x.this.mhSystemImpModule with
  | none => rfl
  | some m => rfl

/-- After a load there is no system, or one with a new identity. -/
theorem load_mpSystem (x : Ctx) (file : String) (o : LoadOutcome) (s : SimSystem)
    (hs : (x.loadSystemModule file o).1.this.mpSystem = some s) : s.id = x.world.systems := by
  have hnone : x.safeRelease.freeModule.this.mpSystem = none := by
    rw [freeModule_mpSystem, safeRelease_mpSystem]
  rw [← safeRelease_systems x, ← freeModule_systems]
  -- Only a load that succeeds leaves a system behind.
  cases o with
  | noLibrary => exact absurd (hnone.symm.trans hs) (Option.some_ne_none s).symm
  | noEntry => exact absurd (hnone.symm.trans hs) (Option.some_ne_none s).symm
  | noSystem => exact absurd (hnone.symm.trans hs) (Option.some_ne_none s).symm
  | initFails sim =>
      exact absurd ((safeRelease_mpSystem _).symm.trans hs) (Option.some_ne_none s).symm
  | success sim => exact (congrArg SimSystem.id (Option.some.inj hs)).symm

/-- An operation that replaces the current system by none or a new one keeps the
    cached pointers good exactly when there are none. -/
theorem pointersLive_replaced (hinv : SystemInv x) (h : PointersLive x) (hxy : SameDevice x y)
    (hnew : ∀ s, y.this.mpSystem = some s → s.id = x.world.systems) :
    PointersLive y ↔ ∀ p, ¬ x.Cached p := by
  -- The operation does not look at the pointers the device keeps.
  have hcached : ∀ p, y.Cached p ↔ x.Cached p := by
    intro p
    unfold Ctx.Cached
    rw [hxy.mBARs, hxy.display]
  constructor
  · intro hy p hp
    -- The pointer would have to come from the old system and from the new one.
    rcases h p hp with ⟨s, hs, hsys⟩
    rcases hy p ((hcached p).mpr hp) with ⟨t, ht, hsys'⟩
    have hold := (hinv.current s hs).1
    have hfresh := hnew t ht
    omega
  · intro hnone p hp
    exact absurd ((hcached p).mp hp) (hnone p)

/-- An operation keeps the cached pointers good exactly when it leaves none
    behind. -/
theorem pointersLive_step (F : Framework) (x : Ctx) (op : DriveOp) (hinv : SystemInv x)
    (h : PointersLive x) : PointersLive (driveStep F x op) ↔ KeepsPointers x op := by
  cases op with
  | shutdown =>
      refine pointersLive_replaced hinv h (sameDevice_shutdown x) fun s hs => ?_
      exact absurd ((shutdown_mpSystem x).symm.trans hs) (Option.some_ne_none s).symm
  | call c =>
      cases c with
      | loadSystemModule file o =>
          exact pointersLive_replaced hinv h (sameDevice_load x file o) (load_mpSystem x file o)
      -- Any other call keeps the system, and adds only pointers into it.
      | _ => exact iff_of_true (pointersLive_effect (exec_effect F x _)
          (fun _ _ => ScriptCall.noConfusion) h) trivial

end Step

/-- From a new device object on, every state reached is pointer safe exactly
    when every load and every shutdown comes while no pointer is cached. -/
theorem pointersSafe_run (F : Framework) (self mpdev : Nat) (param : TestdriveParam) (w : World)
    (hw : ∀ n, w.Released n → n < w.systems) (ops : List DriveOp) :
    Runs.Always (driveStep F) PointersSafe
        { this := TestDrive.new self mpdev, param := param, world := w } ops ↔
      Runs.Each (driveStep F) KeepsPointers
        { this := TestDrive.new self mpdev, param := param, world := w } ops := by
  have hinv : SystemInv { this := TestDrive.new self mpdev, param := param, world := w } :=
    ⟨fun s hs => absurd hs (Option.some_ne_none s).symm, hw⟩
  refine Runs.always_iff_each (driveStep F) (systemInv_step F) (fun x op hx hP => ?_) ops _ hinv
    ((pointersSafe_iff hinv).mpr fun p hp => ?_)
  · rw [pointersSafe_iff (systemInv_step F x op hx)]
    exact pointersLive_step F x op hx ((pointersSafe_iff hx).mp hP)
  · rcases hp with ⟨i, bar, hbar, _⟩ | hbuf
    · simp only [TestDrive.new, AList.lookup_empty, reduceCtorEq] at hbar
    · exact absurd hbuf (Option.some_ne_none p).symm

/-- A module is loaded, a BAR is bound to its memory, and the emulator exits. -/
def bindThenShutdown : List DriveOp :=
  [.call (.loadSystemModule "module" (.success (ISystemSim.flat 0x80000000 0x100000 0x1000))),
    .call (.createBAR (some "memory") (.int64 0x1000) (.int64 0x80000000) .nil .nil),
    .shutdown]

theorem pointersSafe_run_bindThenShutdown :
    Runs.Always (driveStep Framework.standard) PointersSafe Ctx.start bindThenShutdown ↔
      Runs.Each (driveStep Framework.standard) KeepsPointers Ctx.start bindThenShutdown :=
  pointersSafe_run Framework.standard 0 0 TestdriveParam.zero World.start
    (fun _ hn => absurd hn List.not_mem_nil) bindThenShutdown

/-- After the exit the BAR still has its pointer, and a read of the guest copies
    from the released system. -/
theorem stale_pointer_after_shutdown :
    ∃ bar, (Runs.run (driveStep Framework.standard) Ctx.start
          bindThenShutdown).this.mBARs.lookup 0 = some bar ∧
      bar.pMem = some { sys := 0, addr := 0x1000 } ∧
      (Runs.run (driveStep Framework.standard) Ctx.start bindThenShutdown).world.Released 0 ∧
      ¬ PointersSafe (Runs.run (driveStep Framework.standard) Ctx.start bindThenShutdown) ∧
      ¬ AccessesLive (Runs.run (driveStep Framework.standard) Ctx.start bindThenShutdown)
        ((Runs.run (driveStep Framework.standard) Ctx.start bindThenShutdown).testdriveBarRead bar
          0 4 0).1 := by
  have hrel : (Runs.run (driveStep Framework.standard) Ctx.start
      bindThenShutdown).world.Released 0 :=
    List.mem_append_right _ (List.mem_singleton_self _)
  refine ⟨_, rfl, by decide, hrel, fun h => ?_, fun h => ?_⟩
  · rcases h.live { sys := 0, addr := 0x1000 } (Or.inl ⟨0, _, rfl, by decide⟩) with ⟨s, hs, _⟩
    exact absurd hs (Option.some_ne_none s).symm
  · rcases h with ⟨es, hes, hlive⟩
    have hev : [Event.memcpy false { sys := 0, addr := 0x1000 } 4] = es :=
      List.append_cancel_left hes
    exact hlive (.memcpy false { sys := 0, addr := 0x1000 } 4)
      (by rw [← hev]; exact List.mem_singleton_self _) hrel

end QemuTestdrive
