import QemuTestdrive.Core.Script
import QemuTestdrive.Lib.Runs

/-!
# What a Script Call Can Do

One case analysis of the script operations, made once. Every invariant of the
setup phase is about the device object and the global parameters, and most of
what an operation does is to decode, to check and to log, which touches
neither. `Quiet` is the relation between two states that differ in that way
only, and `Effect` lists the eight ways a call can change anything beyond it,
with the checks that were passed on the way.

`exec_effect` says that the list is complete. An invariant is proved by cases
on it and never unfolds an operation.

## Main definitions

* `Quiet`: Two states that differ in the trace only, by no release.
* `Decodes`: A script value that `lua_int64::GET` turns into a number.
* `SameDevice`: Two states that differ in the loaded system only.
* `Effect`: The ways a script call can change the state.

## Theorems

* `quiet_emit`, `quiet_log`, `quiet_logs`: Logging is quiet.
* `sameDevice_load`, `sameDevice_shutdown`: Loading and releasing a system
  leave the BARs, the display and the parameters alone.
* `lookup_placeBAR`: The BARs in the map after one has been stored.
* `createBAR_of_decodes`: `CreateBAR` on a valid type and decodable numbers.
* `createBAR_effect`: The ways through `CreateBAR`.
* `enableMSI_effect`, `enableMSIX_effect`, `enableDisplay_effect`: The same
  for the other operations.
* `exec_effect`: Every call has one of the listed effects.
* `self_run`: A script runs for the same object all along.
-/

namespace QemuTestdrive

/-- The system object `s` has been released. -/
def World.Released (w : World) (s : Nat) : Prop :=
  Event.release s ∈ w.trace

/-- `y` differs from `x` in the trace only, and by no release. -/
structure Quiet (x y : Ctx) : Prop where
  this : y.this = x.this
  param : y.param = x.param
  mem : y.world.mem = x.world.mem
  systems : y.world.systems = x.world.systems
  released : ∀ s, y.world.Released s ↔ x.world.Released s

theorem Quiet.refl (x : Ctx) : Quiet x x :=
  ⟨rfl, rfl, rfl, rfl, fun _ => Iff.rfl⟩

theorem Quiet.trans {x y z : Ctx} (h1 : Quiet x y) (h2 : Quiet y z) : Quiet x z :=
  ⟨h2.this.trans h1.this, h2.param.trans h1.param, h2.mem.trans h1.mem,
    h2.systems.trans h1.systems, fun s => (h2.released s).trans (h1.released s)⟩

theorem released_emit (w : World) (e : Event) (s : Nat) :
    (w.emit e).Released s ↔ w.Released s ∨ e = .release s := by
  simp only [World.Released, World.emit, List.mem_append, List.mem_singleton]
  constructor
  · rintro (h | h)
    · exact Or.inl h
    · exact Or.inr h.symm
  · rintro (h | h)
    · exact Or.inl h
    · exact Or.inr h.symm

theorem quiet_emit (x : Ctx) (e : Event) (he : ∀ s, e ≠ .release s) : Quiet x (x.emit e) := by
  refine ⟨rfl, rfl, rfl, rfl, fun s => ?_⟩
  simp only [Ctx.emit, released_emit]
  exact ⟨fun h => h.resolve_right (he s), Or.inl⟩

theorem quiet_log (x : Ctx) (mode : LogMode) (text : String) : Quiet x (x.log mode text) :=
  quiet_emit x _ fun _ => Event.noConfusion

theorem quiet_logs (x : Ctx) (ls : List (LogMode × String)) : Quiet x (x.logs ls) := by
  induction ls generalizing x with
  | nil => exact Quiet.refl x
  | cons l ls ih => exact (quiet_log x l.1 l.2).trans (ih (x.log l.1 l.2))

theorem quiet_ask (x : Ctx) (s : SimSystem) (methods : List String) :
    Quiet x (x.ask s methods) := by
  refine ⟨rfl, rfl, rfl, rfl, fun r => ?_⟩
  simp only [Ctx.ask, World.Released, List.mem_append, List.mem_map, reduceCtorEq, and_false,
    exists_false, or_false]

theorem quiet_askPointer (x : Ctx) (a size : UInt64) : Quiet x (x.askPointer a size) := by
  unfold Ctx.askPointer
  split
  · exact quiet_ask x _ _
  · exact Quiet.refl x

/-- `lua_int64::GET` returns `m` for the value `v`. -/
def Decodes (F : Framework) (v : LuaRef) (m : UInt64) : Prop :=
  (LuaInt64.GET F v).2 = .ok m

theorem Decodes.unique {F : Framework} {v : LuaRef} {m m' : UInt64} (h : Decodes F v m)
    (h' : Decodes F v m') : m = m' :=
  Except.ok.inj (h.symm.trans h')

/-- The record `CreateBAR` checks the slots for, when its type is valid and its
    numbers decode to `s` and `a`. -/
def Ctx.requested (F : Framework) (x : Ctx) (sType : String) (s a : UInt64)
    (b64bit bPrefetchable : LuaRef) : TestdrivePciBar :=
  x.requestedBAR F (F.retrieveTag sType addressSpaceType) s a b64bit bPrefetchable

/-- The slots that are left are enough for the BAR. -/
def TestdrivePciBar.Fits (bar : TestdrivePciBar) : Prop :=
  bar.option.barId.toNat + bar.slots ≤ 6

/-- The pointers `EnableDisplay` can leave in the display record. -/
def DisplayPointer (x : Ctx) (p : Option HostPtr) : Prop :=
  p = none ∨ p = x.this.display.pBuffer ∨
    ∃ s addr, x.this.mpSystem = some s ∧ p = s.getMemoryPointer addr

/-- The ways a script call can change the state, with what it returns. -/
inductive Effect (F : Framework) (x : Ctx) : ScriptCall → Ctx → CallResult → Prop where
  | quiet {c : ScriptCall} {y : Ctx} {r : CallResult} (hq : Quiet x y)
      (hr : r ≠ .returned true) : Effect F x c y r
  | reset (size addr b64 pf : LuaRef) :
      Effect F x (.createBAR none size addr b64 pf) x.resetBARs (.returned true)
  | added {y : Ctx} {sType : String} {size addr b64 pf : LuaRef} {s a : UInt64}
      (hq : Quiet x y) (htype : 0 ≤ F.retrieveTag sType addressSpaceType)
      (hsize : Decodes F size s) (haddr : Decodes F addr a)
      (hfit : (x.requested F sType s a b64 pf).Fits) :
      Effect F x (.createBAR (some sType) size addr b64 pf)
        (y.placeBAR (x.finalBAR (x.requested F sType s a b64 pf))) (.returned true)
  | msi {y : Ctx} {n : Int32} {mask : Bool} (h0 : ¬ n < 0) (h32 : ¬ 32 ≤ n)
      (hq : Quiet (x.setInterrupt (setMSI n mask x.param.interrupt)) y) :
      Effect F x (.enableMSI n mask) y (.returned true)
  | msix {y : Ctx} {n : Int32} {mask : Bool} {iBar offT offP : UInt32} (h5 : ¬ 5 < iBar)
      (hbar : (x.param.bar iBar.toNat).isSome) (h0 : ¬ n < 0) (h2048 : ¬ 2048 ≤ n)
      (hq : Quiet (x.setInterrupt (setMSIX n mask iBar offT offP)) y) :
      Effect F x (.enableMSIX n mask iBar offT offP) y (.returned true)
  | display {y : Ctx} {r : CallResult} {w h : Int32} {addr fmt : LuaRef} (d : TestdriveDisplay)
      (hp : DisplayPointer x d.pBuffer) (hq : Quiet (x.setDisplay d) y) :
      Effect F x (.enableDisplay w h addr fmt) y r
  | load (file : String) (o : LoadOutcome) :
      Effect F x (.loadSystemModule file o) (x.loadSystemModule file o).1
        (.returned (x.loadSystemModule file o).2)

/-- `y` is `x` but for its system, its module and the world's counters and
    trace. -/
structure SameDevice (x y : Ctx) : Prop where
  self : y.this.self = x.this.self
  mpdev : y.this.mpdev = x.this.mpdev
  display : y.this.display = x.this.display
  mBARs : y.this.mBARs = x.this.mBARs
  param : y.param = x.param

theorem SameDevice.trans {x y z : Ctx} (h1 : SameDevice x y) (h2 : SameDevice y z) :
    SameDevice x z :=
  ⟨h2.self.trans h1.self, h2.mpdev.trans h1.mpdev, h2.display.trans h1.display,
    h2.mBARs.trans h1.mBARs, h2.param.trans h1.param⟩

theorem sameDevice_emit (x : Ctx) (e : Event) : SameDevice x (x.emit e) :=
  ⟨rfl, rfl, rfl, rfl, rfl⟩

theorem sameDevice_safeRelease (x : Ctx) : SameDevice x x.safeRelease := by
  unfold Ctx.safeRelease
  cases x.this.mpSystem with
  | none => exact ⟨rfl, rfl, rfl, rfl, rfl⟩
  | some s => exact ⟨rfl, rfl, rfl, rfl, rfl⟩

theorem sameDevice_freeModule (x : Ctx) : SameDevice x x.freeModule := by
  unfold Ctx.freeModule
  cases x.this.mhSystemImpModule with
  | none => exact ⟨rfl, rfl, rfl, rfl, rfl⟩
  | some h => exact ⟨rfl, rfl, rfl, rfl, rfl⟩

theorem sameDevice_openLibrary (x : Ctx) (file : String) : SameDevice x (x.openLibrary file) :=
  ⟨rfl, rfl, rfl, rfl, rfl⟩

theorem sameDevice_createSystem (x : Ctx) (lib : Nat) (sim : ISystemSim) :
    SameDevice x (x.createSystem lib sim) :=
  ⟨rfl, rfl, rfl, rfl, rfl⟩

theorem sameDevice_load (x : Ctx) (file : String) (o : LoadOutcome) :
    SameDevice x (x.loadSystemModule file o).1 := by
  have hfree : SameDevice x x.safeRelease.freeModule :=
    (sameDevice_safeRelease x).trans (sameDevice_freeModule _)
  have hopen := hfree.trans (sameDevice_openLibrary _ file)
  cases o with
  | noLibrary => exact (hfree.trans (sameDevice_emit _ _)).trans (sameDevice_emit _ _)
  | noEntry => exact hopen.trans (sameDevice_emit _ _)
  | noSystem => exact hopen.trans (sameDevice_emit _ _)
  | initFails sim =>
      have hcreate := hopen.trans
        (sameDevice_createSystem _ x.safeRelease.freeModule.world.libraries sim)
      exact ((hcreate.trans (sameDevice_emit _ _)).trans (sameDevice_safeRelease _)).trans
        (sameDevice_emit _ _)
  | success sim =>
      have hcreate := hopen.trans
        (sameDevice_createSystem _ x.safeRelease.freeModule.world.libraries sim)
      exact ((hcreate.trans (sameDevice_emit _ _)).trans (sameDevice_emit _ _)).trans
        (sameDevice_emit _ _)

theorem sameDevice_shutdown (x : Ctx) : SameDevice x x.shutdown := by
  unfold Ctx.shutdown
  split
  · exact sameDevice_safeRelease x
  · exact ⟨rfl, rfl, rfl, rfl, rfl⟩

theorem safeRelease_mpSystem (x : Ctx) : x.safeRelease.this.mpSystem = none := by
  unfold Ctx.safeRelease
  rcases hs : x.this.mpSystem with _ | s
  · exact hs
  · rfl

theorem freeModule_mpSystem (x : Ctx) : x.freeModule.this.mpSystem = x.this.mpSystem := by
  unfold Ctx.freeModule
  cases x.this.mhSystemImpModule with
  | none => rfl
  | some m => rfl

theorem shutdown_mpSystem (x : Ctx) : x.shutdown.this.mpSystem = none := by
  unfold Ctx.shutdown
  split
  · exact safeRelease_mpSystem x
  · rename_i h
    exact Option.not_isSome_iff_eq_none.mp h

/-- The load goes through to the end. -/
def LoadOutcome.succeeds : LoadOutcome → Bool
  | .success _ => true
  | _ => false

/-- After a load there is a system exactly when the load has gone through, which
    is what it returns. -/
theorem load_succeeds (x : Ctx) (file : String) (o : LoadOutcome) :
    (x.loadSystemModule file o).1.this.mpSystem.isSome = o.succeeds ∧
      (x.loadSystemModule file o).2 = o.succeeds := by
  have hnone : x.safeRelease.freeModule.this.mpSystem = none := by
    rw [freeModule_mpSystem, safeRelease_mpSystem]
  cases o with
  | noLibrary => exact ⟨congrArg Option.isSome hnone, rfl⟩
  | noEntry => exact ⟨congrArg Option.isSome hnone, rfl⟩
  | noSystem => exact ⟨congrArg Option.isSome hnone, rfl⟩
  | initFails sim => exact ⟨congrArg Option.isSome (safeRelease_mpSystem _), rfl⟩
  | success sim => exact ⟨rfl, rfl⟩

/-- A BAR in the map after one has been stored is the new one or was there before. -/
theorem lookup_placeBAR {x : Ctx} {bar b : TestdrivePciBar} {i : Nat}
    (h : (x.placeBAR bar).this.mBARs.lookup i = some b) :
    i = bar.option.barId.toNat ∧ b = bar ∨ x.this.mBARs.lookup i = some b := by
  simp only [Ctx.placeBAR] at h
  by_cases hi : i = bar.option.barId.toNat
  · left
    rw [hi, AList.lookup_insert, Option.some.injEq] at h
    exact ⟨hi, h.symm⟩
  · right
    rw [AList.lookup_insert_ne hi] at h
    exact h

theorem returned_false_ne : CallResult.returned false ≠ .returned true := by
  decide

section Calls

variable (F : Framework) (x : Ctx)

/-- The slot check and what follows it, from a state that has only logged. -/
theorem addBAR_eq {y : Ctx} (hq : Quiet x y) (bar : TestdrivePciBar) :
    (bar.Fits → y.addBAR bar =
        (((y.logs (barMessages bar)).askPointer bar.bindAddress
          (correctedSize bar.byteSize)).placeBAR (x.finalBAR bar), .ok true)) ∧
      (¬ bar.Fits → y.addBAR bar = (y.log .error "No more available BAR left.", .ok false)) := by
  -- The direct pointer depends on the system alone, which logging leaves alone.
  have hfinal : y.finalBAR bar = x.finalBAR bar := by
    simp only [Ctx.finalBAR, hq.this]
  constructor
  · intro hfit
    unfold TestdrivePciBar.Fits at hfit
    rw [Ctx.addBAR, if_neg (by omega), hfinal]
  · intro hfit
    unfold TestdrivePciBar.Fits at hfit
    rw [Ctx.addBAR, if_pos (by omega)]

/-- On a valid type and decodable numbers, `CreateBAR` creates the BAR exactly
    when it fits, and otherwise only logs. -/
theorem createBAR_of_decodes {sType : String} {size addr : LuaRef} {s a : UInt64}
    (b64 pf : LuaRef) (htype : 0 ≤ F.retrieveTag sType addressSpaceType)
    (hsize : Decodes F size s) (haddr : Decodes F addr a) :
    ∃ y, Quiet x y ∧
      ((x.requested F sType s a b64 pf).Fits →
        x.createBAR F (some sType) size addr b64 pf =
          (y.placeBAR (x.finalBAR (x.requested F sType s a b64 pf)), .ok true)) ∧
      (¬ (x.requested F sType s a b64 pf).Fits →
        ∃ z, Quiet x z ∧ x.createBAR F (some sType) size addr b64 pf = (z, .ok false)) := by
  unfold Decodes at hsize haddr
  rcases hgs : LuaInt64.GET F size with ⟨ls, rs⟩
  rcases hga : LuaInt64.GET F addr with ⟨la, ra⟩
  rw [hgs] at hsize
  rw [hga] at haddr
  simp only at hsize haddr
  subst hsize haddr
  -- The decodings only log, so what is left is the slot check.
  have hq : Quiet x ((x.logs ls).logs la) := (quiet_logs x ls).trans (quiet_logs _ la)
  have hcall : x.createBAR F (some sType) size addr b64 pf =
      ((x.logs ls).logs la).addBAR (x.requested F sType s a b64 pf) := by
    simp only [Ctx.createBAR, if_neg (Int.not_lt.mpr htype), hgs, hga, Ctx.requested]
  rcases addBAR_eq x hq (x.requested F sType s a b64 pf) with ⟨hyes, hno⟩
  refine ⟨_, (hq.trans (quiet_logs _ (barMessages (x.requested F sType s a b64 pf)))).trans
    (quiet_askPointer _ a (correctedSize s)), fun hfit => ?_, fun hfit => ?_⟩
  · rw [hcall, hyes hfit]
    rfl
  · exact ⟨_, hq.trans (quiet_log _ _ _), by rw [hcall, hno hfit]⟩

theorem createBAR_effect (t : Option String) (size addr b64 pf : LuaRef) :
    Effect F x (.createBAR t size addr b64 pf) (x.createBAR F t size addr b64 pf).1
      (.ofExcept (x.createBAR F t size addr b64 pf).2) := by
  cases t with
  | none => exact .reset size addr b64 pf
  | some sType =>
      -- The type is checked first, then the size is decoded, then the address.
      by_cases htype : F.retrieveTag sType addressSpaceType < 0
      · simp only [Ctx.createBAR, if_pos htype]
        exact .quiet (quiet_log x _ _) returned_false_ne
      have hnn : 0 ≤ F.retrieveTag sType addressSpaceType := Int.not_lt.mp htype
      rcases hgs : LuaInt64.GET F size with ⟨ls, es | s⟩
      · simp only [Ctx.createBAR, if_neg htype, hgs]
        exact .quiet (quiet_logs x ls) CallResult.noConfusion
      rcases hga : LuaInt64.GET F addr with ⟨la, ea | a⟩
      · simp only [Ctx.createBAR, if_neg htype, hgs, hga]
        exact .quiet ((quiet_logs x ls).trans (quiet_logs _ la)) CallResult.noConfusion
      have hsize : Decodes F size s := by rw [Decodes, hgs]
      have haddr : Decodes F addr a := by rw [Decodes, hga]
      rcases createBAR_of_decodes F x b64 pf hnn hsize haddr with ⟨y, hq, hyes, hno⟩
      by_cases hfit : (x.requested F sType s a b64 pf).Fits
      · rw [hyes hfit]
        exact .added hq hnn hsize haddr hfit
      · rcases hno hfit with ⟨z, hz, heq⟩
        rw [heq]
        exact .quiet hz returned_false_ne

theorem enableMSI_effect (n : Int32) (mask : Bool) :
    Effect F x (.enableMSI n mask) (x.enableMSI n mask).1 (.returned (x.enableMSI n mask).2) := by
  by_cases hrange : n < 0 ∨ 32 ≤ n
  · simp only [Ctx.enableMSI, if_pos hrange]
    exact .quiet (quiet_log x _ _) returned_false_ne
  · simp only [Ctx.enableMSI, if_neg hrange]
    rw [not_or] at hrange
    exact .msi hrange.1 hrange.2 (quiet_log _ _ _)

theorem enableMSIX_effect (n : Int32) (mask : Bool) (iBar offT offP : UInt32) :
    Effect F x (.enableMSIX n mask iBar offT offP) (x.enableMSIX n mask iBar offT offP).1
      (.returned (x.enableMSIX n mask iBar offT offP).2) := by
  -- The three checks in the order of the source: the BAR's number, the BAR, the count.
  by_cases h5 : 5 < iBar
  · simp only [Ctx.enableMSIX, if_pos h5]
    exact .quiet (quiet_log x _ _) returned_false_ne
  by_cases hbar : (x.param.bar iBar.toNat).isNone
  · simp only [Ctx.enableMSIX, if_neg h5, if_pos hbar]
    exact .quiet (quiet_log x _ _) returned_false_ne
  by_cases hrange : n < 0 ∨ 2048 ≤ n
  · simp only [Ctx.enableMSIX, if_neg h5, if_neg hbar, if_pos hrange]
    exact .quiet (quiet_log x _ _) returned_false_ne
  · simp only [Ctx.enableMSIX, if_neg h5, if_neg hbar, if_neg hrange]
    rw [not_or] at hrange
    have hsome : (x.param.bar iBar.toNat).isSome := by
      rw [← Option.not_isNone]
      simpa only [Bool.not_eq_true', Bool.not_eq_true] using hbar
    exact .msix h5 hsome hrange.1 hrange.2 (quiet_log _ _ _)

theorem bindDisplay_effect (s : SimSystem) (hs : x.this.mpSystem = some s) (w h : Int32)
    (addr fmt : LuaRef) (d : TestdriveDisplay) (hd : d.pBuffer = x.this.display.pBuffer) :
    Effect F x (.enableDisplay w h addr fmt) (x.bindDisplay F s addr d).1
      (.ofExcept (x.bindDisplay F s addr d).2) := by
  by_cases hnil : addr.isNil
  · simp only [Ctx.bindDisplay, if_pos hnil]
    exact .display _ (Or.inr (Or.inr ⟨s, _, hs, rfl⟩)) (quiet_ask (x.setDisplay _) s _)
  · rcases hconv : F.toUint64 addr with _ | a
    · simp only [Ctx.bindDisplay, if_neg hnil, hconv]
      exact .display d (Or.inr (Or.inl hd)) (Quiet.refl _)
    · simp only [Ctx.bindDisplay, if_neg hnil, hconv]
      exact .display _ (Or.inr (Or.inr ⟨s, a, hs, rfl⟩)) (quiet_ask (x.setDisplay _) s _)

theorem enableDisplay_effect (w h : Int32) (addr fmt : LuaRef) :
    Effect F x (.enableDisplay w h addr fmt) (x.enableDisplay F w h addr fmt).1
      (.ofExcept (x.enableDisplay F w h addr fmt).2) := by
  by_cases hsize : w ≠ 0 ∧ h ≠ 0
  · rcases hs : x.this.mpSystem with _ | s
    · simp only [Ctx.enableDisplay, if_pos hsize, hs]
      exact .quiet (quiet_log x _ _) returned_false_ne
    · simp only [Ctx.enableDisplay, if_pos hsize, hs]
      split
      · split
        · -- The rejection of an unknown format.
          exact .display TestdriveDisplay.zero (Or.inl rfl)
            (quiet_log (x.setDisplay TestdriveDisplay.zero) .error "Invalid display format.")
        · exact bindDisplay_effect F x s hs w h addr _ _ rfl
      · exact bindDisplay_effect F x s hs w h addr _ _ rfl
  · simp only [Ctx.enableDisplay, if_neg hsize]
    exact .display TestdriveDisplay.zero (Or.inl rfl) (Quiet.refl _)

/-- Every script call has one of the listed effects. -/
theorem exec_effect (c : ScriptCall) : Effect F x c (exec F x c).1 (exec F x c).2 := by
  cases c with
  | createBAR t size addr b64 pf => exact createBAR_effect F x t size addr b64 pf
  | enableMSI n mask => exact enableMSI_effect F x n mask
  | enableMSIX n mask iBar offT offP => exact enableMSIX_effect F x n mask iBar offT offP
  | enableDisplay w h addr fmt => exact enableDisplay_effect F x w h addr fmt
  | loadSystemModule file o => exact .load file o
  | getDescription =>
      rcases hs : x.this.mpSystem with _ | s
      · simp only [exec, Ctx.getDescription, hs]
        exact .quiet (quiet_emit x _ fun _ => Event.noConfusion) CallResult.noConfusion
      · simp only [exec, Ctx.getDescription, hs]
        exact .quiet (quiet_ask x s _) CallResult.noConfusion
  | getMemoryBase =>
      simp only [exec, Ctx.getMemoryBase]
      split
      · exact .quiet (quiet_ask x _ _) CallResult.noConfusion
      · exact .quiet (Quiet.refl x) CallResult.noConfusion
  | getMemorySize =>
      simp only [exec, Ctx.getMemorySize]
      split
      · exact .quiet (quiet_ask x _ _) CallResult.noConfusion
      · exact .quiet (Quiet.refl x) CallResult.noConfusion

end Calls

theorem effect_self {F : Framework} {x y : Ctx} {c : ScriptCall} {r : CallResult}
    (he : Effect F x c y r) : y.this.self = x.this.self := by
  cases he with
  | quiet hq _ => rw [hq.this]
  | reset => rfl
  | added hq => rw [← hq.this]; rfl
  | msi _ _ hq => rw [hq.this]; rfl
  | msix _ _ _ _ hq => rw [hq.this]; rfl
  | display d _ hq => rw [hq.this]; rfl
  | load file o => exact (sameDevice_load x file o).self

/-- A script does not change which object it runs for. -/
theorem self_run (F : Framework) (x : Ctx) (calls : List ScriptCall) :
    (Runs.run (step F) x calls).this.self = x.this.self := by
  have hstep : ∀ (y : Ctx) (c : ScriptCall), y.this.self = x.this.self →
      (step F y c).this.self = x.this.self :=
    fun y c hy => (effect_self (exec_effect F y c)).trans hy
  exact Runs.run_preserves (step F) hstep x calls rfl

end QemuTestdrive
