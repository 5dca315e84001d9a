import QemuTestdrive.Theory.FlatBus
import QemuTestdrive.Theory.SystemCalls

/-!
# Devices Beside Each Other

Several devices run in one process, over one host memory and one trace. While the
guest of one of them reads and writes, others are plugged in and set up by their
scripts, are accessed, are refreshed and are taken out again. `guest_refines_bus`
is about one device alone, and this module about one device among the others: what
its guest sees is the flat bus of its own accesses, in whatever way they are
interleaved with the rest.

A script reaches neither the memory of a system nor its port, so another device
can disturb only through the accesses of its guest. Those of a valid guest stay in
the memory of that device's own system, and the port belongs to a system no other
device holds.

Some things the program does not see to are assumed. The memory of every system that
is accessed is linear, and the modules keep their memories apart from each other. A
direct pointer of a BAR that is accessed is the one of its bind address, with the whole
BAR inside the window of its system (`BoundTo`). And no module writes to a memory when
its `io_slave` is called, or on its own.

## Main definitions

* `Unreached`: No guest has reached memory or a port in between.
* `Scripted`: Scripts have run in between.
* `Observed`: The process, and what the guest of one object has read.
* `EmulatorOp.Beside`: What may happen beside a device.
* `ObservedRefines`: The relation between the process and the bus of one object.

## Theorems

* `scripted_exec`, `scripted_construct`: What scripts do to memory, ports and QEMU.
* `observedRefines_own`: An access of the guest.
* `observedRefines_other`: An access of another guest.
* `observedRefines_step`: Any operation of the process.
* `device_refines_bus`: Any run of the process.
-/

namespace QemuTestdrive

/-- Between the two states no guest has reached memory or a port. -/
structure Unreached (w w' : World) : Prop where
  mem : w'.mem = w.mem
  ioSlaves : w'.ioSlaves = w.ioSlaves

theorem Unreached.refl (w : World) : Unreached w w :=
  ⟨rfl, rfl⟩

theorem Unreached.trans {w w' w'' : World} (h1 : Unreached w w') (h2 : Unreached w' w'') :
    Unreached w w'' :=
  ⟨h2.mem.trans h1.mem, h2.ioSlaves.trans h1.ioSlaves⟩

/-- Events that are no calls on a port. -/
theorem unreached_events {w w' : World} {es : List Event} (hmem : w'.mem = w.mem)
    (htrace : w'.trace = w.trace ++ es) (hes : ∀ e ∈ es, e.isIoSlave = false) :
    Unreached w w' := by
  refine ⟨hmem, ?_⟩
  have hnone : es.filter Event.isIoSlave = [] :=
    List.filter_eq_nil_iff.mpr fun e he => by simp [hes e he]
  rw [World.ioSlaves, htrace, List.filter_append, hnone, List.append_nil]
  rfl

theorem unreached_emit (x : Ctx) {e : Event} (he : e.isIoSlave = false) :
    Unreached x.world (x.emit e).world :=
  unreached_events rfl rfl (List.forall_mem_singleton.mpr he)

/-- An event of a script: a message, or something done with a module. -/
def Event.isScript : Event → Bool
  | .log _ _ | .loadLibrary _ _ | .freeLibrary _ | .createSystem _ _
  | .initializeSimulation _ _ | .registerInterruptService _ _ | .enableInterrupt _ _
  | .systemCall _ _ | .release _ | .nullCall _ => true
  | _ => false

/-- Between the two states there are only events of scripts. -/
structure Scripted (w w' : World) : Prop where
  mem : w'.mem = w.mem
  trace : ∃ es, w'.trace = w.trace ++ es ∧ ∀ e ∈ es, e.isScript = true

theorem Scripted.refl (w : World) : Scripted w w :=
  ⟨rfl, [], (List.append_nil _).symm, fun _ he => absurd he List.not_mem_nil⟩

theorem Scripted.trans {w w' w'' : World} (h1 : Scripted w w') (h2 : Scripted w' w'') :
    Scripted w w'' := by
  rcases h1.trace with ⟨es, hes, hall⟩
  rcases h2.trace with ⟨fs, hfs, hall'⟩
  refine ⟨h2.mem.trans h1.mem, es ++ fs, by rw [hfs, hes, List.append_assoc], fun e he => ?_⟩
  exact (List.mem_append.mp he).elim (hall e) (hall' e)

theorem Scripted.unreached {w w' : World} (h : Scripted w w') : Unreached w w' := by
  rcases h.trace with ⟨es, hes, hall⟩
  refine unreached_events h.mem hes fun e he => ?_
  have hscript := hall e he
  cases e <;> first | rfl | exact Bool.noConfusion hscript

section Script

variable (F : Framework) (x : Ctx)

theorem scripted_emit {e : Event} (he : e.isScript = true) :
    Scripted x.world (x.emit e).world :=
  ⟨rfl, [e], rfl, List.forall_mem_singleton.mpr he⟩

theorem scripted_safeRelease : Scripted x.world x.safeRelease.world := by
  unfold Ctx.safeRelease
  split
  · exact scripted_emit _ rfl
  · exact Scripted.refl _

theorem scripted_freeModule : Scripted x.world x.freeModule.world := by
  unfold Ctx.freeModule
  split
  · exact scripted_emit _ rfl
  · exact Scripted.refl _

theorem scripted_destructor : Scripted x.world x.destructor.world :=
  (scripted_safeRelease x).trans (scripted_freeModule _)

theorem scripted_load (file : String) (o : LoadOutcome) :
    Scripted x.world (x.loadSystemModule file o).1.world := by
  have hfree : Scripted x.world x.safeRelease.freeModule.world := scripted_destructor x
  have hopen : Scripted x.world (x.safeRelease.freeModule.openLibrary file).world :=
    hfree.trans ⟨rfl, _, rfl, List.forall_mem_singleton.mpr rfl⟩
  have hcreate : ∀ lib sim,
      Scripted x.world ((x.safeRelease.freeModule.openLibrary file).createSystem lib sim).world :=
    fun lib sim => hopen.trans ⟨rfl, _, rfl, List.forall_mem_singleton.mpr rfl⟩
  cases o with
  | noLibrary => exact (hfree.trans (scripted_emit _ rfl)).trans (scripted_emit _ rfl)
  | noEntry => exact hopen.trans (scripted_emit _ rfl)
  | noSystem => exact hopen.trans (scripted_emit _ rfl)
  | initFails sim =>
      exact (((hcreate _ sim).trans (scripted_emit _ rfl)).trans (scripted_safeRelease _)).trans
        (scripted_emit _ rfl)
  | success sim =>
      exact (((hcreate _ sim).trans (scripted_emit _ rfl)).trans (scripted_emit _ rfl)).trans
        (scripted_emit _ rfl)

theorem exec_mem (c : ScriptCall) (hload : ∀ file o, c ≠ .loadSystemModule file o) :
    (exec F x c).1.world.mem = x.world.mem := by
  have heffect := exec_effect F x c
  generalize (exec F x c).1 = y, (exec F x c).2 = r at heffect ⊢
  cases heffect with
  | quiet hq => exact hq.mem
  | reset => rfl
  | added hq => exact hq.mem
  | msi _ _ hq => exact hq.mem
  | msix _ _ _ _ hq => exact hq.mem
  | display d _ hq => exact hq.mem
  | load file o => exact absurd rfl (hload file o)

variable {x} in
/-- Messages and questions to a system are events of a script. -/
theorem Logged.scripted {y : Ctx} (h : Logged x y) (hmem : y.world.mem = x.world.mem) :
    Scripted x.world y.world := by
  rcases h.trace with ⟨es, hes, hall⟩
  refine ⟨hmem, es, hes, fun e he => ?_⟩
  cases hall e he with
  | message l => rfl
  | asked _ method => rfl

/-- A script call reaches neither memory nor a port, nor QEMU. -/
theorem scripted_exec (c : ScriptCall) : Scripted x.world (step F x c).world := by
  by_cases hload : ∃ file o, c = .loadSystemModule file o
  · rcases hload with ⟨file, o, rfl⟩
    exact scripted_load x file o
  · have hother : ∀ file o, c ≠ .loadSystemModule file o := fun file o hc => hload ⟨file, o, hc⟩
    by_cases hnull : c = .getDescription ∧ x.this.mpSystem = none
    · rcases hnull with ⟨rfl, hs⟩
      have hstep : step F x .getDescription = x.emit (.nullCall "GetDescription") := by
        simp only [step, exec, Ctx.getDescription, hs]
      rw [hstep]
      exact scripted_emit _ rfl
    · rw [not_and] at hnull
      have hlogged := exec_logged F x c hother fun hc =>
        Option.isSome_iff_ne_none.mpr (hnull hc)
      exact hlogged.scripted (exec_mem F x c hother)

theorem scripted_simulationScript : Scripted x.world x.simulationScript.1.world := by
  unfold Ctx.simulationScript
  split
  · rename_i s hs
    exact (logged_ask hs _).scripted rfl
  · exact scripted_emit _ rfl

/-- The constructor of a device only runs scripts. -/
theorem scripted_construct (script : Option SetupScript) :
    Scripted x.world (construct F script x).1.world :=
  construct_preserves F (P := fun y => Scripted x.world y.world)
    (fun y c hy => hy.trans (scripted_exec F y c))
    (fun y hy => hy.trans (scripted_simulationScript y))
    (fun y _ _ hy => hy.trans (scripted_emit y rfl)) script (Scripted.refl _)

theorem unreached_displayUpdate (width height : Int32) :
    Unreached x.world (x.testdriveDisplayUpdate width height).world := by
  have hresize : Unreached x.world (x.resizeDisplay width height).world := by
    unfold Ctx.resizeDisplay
    simp only
    split
    · exact (unreached_emit _ rfl).trans (unreached_emit _ rfl)
    · exact Unreached.refl _
  unfold Ctx.testdriveDisplayUpdate
  simp only
  split
  · exact (hresize.trans (unreached_emit _ rfl)).trans (unreached_emit _ rfl)
  · exact (hresize.trans (unreached_emit _ rfl)).trans (unreached_emit _ rfl)

theorem displayUpdate_mpSystem (width height : Int32) :
    (x.testdriveDisplayUpdate width height).this.mpSystem = x.this.mpSystem := by
  have hresize : (x.resizeDisplay width height).this.mpSystem = x.this.mpSystem := by
    unfold Ctx.resizeDisplay
    simp only
    split
    · rfl
    · rfl
  unfold Ctx.testdriveDisplayUpdate
  simp only
  split
  · exact hresize
  · exact hresize

end Script

section Process

variable {p : Process} {t : Nat} {o : TestDrive} {s : SimSystem}

theorem unreached_qemu (p : Process) (calls : List QemuCall) :
    Unreached p.world (p.qemu calls).world := by
  rw [Process.qemu_eq]
  refine unreached_events rfl rfl fun e he => ?_
  rcases List.mem_map.mp he with ⟨call, _, rfl⟩
  rfl

/-- The scripts of a new device run beside the others. -/
theorem constructed_beside (F : Framework) (ht : p.drives t = some o) (hnew : t ≠ p.objects)
    (d : Nat) (script : Option SetupScript) :
    Unreached p.world (p.constructed F d script).world ∧
      (p.constructed F d script).drives t = some o :=
  ⟨(scripted_construct F (p.scriptStart d) script).unreached, (if_neg hnew).trans ht⟩

/-- A new device is set up beside the others. -/
theorem realized_beside (F : Framework) (ht : p.drives t = some o) (hnew : t ≠ p.objects) (d : Nat)
    (script : Option SetupScript) (initOk : Bool) :
    Unreached p.world ((p.created F d script).setup d p.objects initOk).world ∧
      ((p.created F d script).setup d p.objects initOk).drives t = some o := by
  rcases setup_world (p.created F d script) d p.objects initOk with ⟨calls, hworld⟩
  rcases Process.setup_spec (p.created F d script) d p.objects initOk with ⟨_, _, hdrives, _⟩
  rcases constructed_beside F ht hnew d script with ⟨hscripts, hdrive⟩
  constructor
  · rw [hworld]
    refine hscripts.trans (unreached_events rfl rfl fun e he => ?_)
    rcases List.mem_map.mp he with ⟨call, _, rfl⟩
    rfl
  · rw [hdrives]
    exact hdrive

/-- Another device is unplugged. -/
theorem exit_beside (ht : p.drives t = some o) (d : Nat) (dev : Device)
    (hne : dev.pTestDrive ≠ t) :
    Unreached p.world (p.deviceExit d dev).world ∧ (p.deviceExit d dev).drives t = some o := by
  have hqemu := unreached_qemu p (uninitCalls p.param.interrupt)
  have ht' : (p.qemu (uninitCalls p.param.interrupt)).drives t = some o := by
    rw [Process.qemu_eq]
    exact ht
  unfold Process.deviceExit
  simp only
  split
  · rename_i o' _
    have hworld := scripted_destructor
      { this := o', param := (p.qemu (uninitCalls p.param.interrupt)).param
        world := (p.qemu (uninitCalls p.param.interrupt)).world }
    exact ⟨hqemu.trans hworld.unreached, (if_neg (Ne.symm hne)).trans ht'⟩
  · exact ⟨hqemu, ht'⟩

/-- The display of a device is refreshed. -/
theorem refresh_beside (ht : p.drives t = some o) (hs : o.mpSystem = some s) (t' : Nat)
    (width height : Int32) :
    Unreached p.world (p.onDrive t' (Ctx.testdriveDisplayUpdate width height)).world ∧
      ∃ o', (p.onDrive t' (Ctx.testdriveDisplayUpdate width height)).drives t = some o' ∧
        o'.mpSystem = some s := by
  unfold Process.onDrive
  rcases ht' : p.drives t' with _ | o'
  · exact ⟨Unreached.refl _, o, ht, hs⟩
  · refine ⟨unreached_displayUpdate { this := o', param := p.param, world := p.world } width height,
      ?_⟩
    by_cases heq : t = t'
    · rw [← heq, ht, Option.some.injEq] at ht'
      refine ⟨_, if_pos heq, ?_⟩
      rw [displayUpdate_mpSystem, ← ht']
      exact hs
    · exact ⟨o, (if_neg heq).trans ht, hs⟩

end Process

/-- A call on the port of the system `s`. -/
def Event.callsPort (s : Nat) : Event → Bool
  | .ioSlave s' _ _ _ => s' == s
  | _ => false

/-- The calls made on the port of the system `s` so far. -/
def World.portCalls (w : World) (s : Nat) : List Event :=
  w.ioSlaves.filter (Event.callsPort s)

/-- The process, and what the guest of one object has read. -/
structure Observed where
  process : Process
  seen : List Nat

/-- What the guest of the object `t` has read after an operation, if the process
    runs. -/
def Observed.look (t : Nat) (m : Observed) : EmulatorOp → List Nat
  | .access t' a =>
      if m.process.ended = none ∧ t' = t then
        match m.process.drives t with
        | some o =>
            (Guest.step { ctx := { this := o, param := m.process.param, world := m.process.world },
                          seen := m.seen } a).seen
        | none => m.seen
      else m.seen
  | _ => m.seen

/-- The effect of an operation. -/
def Observed.step (F : Framework) (t : Nat) (m : Observed) (op : EmulatorOp) : Observed :=
  { process := emulatorStep F m.process op, seen := m.look t op }

/-- What the operation is on the bus of the object `t`. -/
def EmulatorOp.busOps (t : Nat) : EmulatorOp → List BusOp
  | .access t' a => if t' = t then [a.busOp] else []
  | _ => []

/-- The block of `size` bytes at `host` is apart from the one at `host'`. -/
def BlocksApart (host size host' size' : Nat) : Prop :=
  host + size ≤ host' ∨ host' + size' ≤ host

/-- What may happen beside the object `t`, which holds the system `s` with its
    memory at `host`. The device of `t` stays plugged in. While the process runs, its
    guest accesses its BARs, and the guests of others access theirs, on systems with
    linear memories of their own. -/
def EmulatorOp.Beside (t : Nat) (s : SimSystem) (host : Nat) (p : Process) : EmulatorOp → Prop
  | .access t' a => p.ended = none ∧
      if t' = t then a.Valid s
      else ∃ o' s' host', p.drives t' = some o' ∧ o'.mpSystem = some s' ∧ s'.sim.Linear host' ∧
        BlocksApart host s.sim.memorySize.toNat host' s'.sim.memorySize.toNat ∧ a.Valid s'
  | .device (.exit d) => ∀ dev, p.devices d = some dev → dev.pTestDrive ≠ t
  | _ => True

/-- The process that was in `w` is at a point where the flat bus of the object `t`
    is at `b`. -/
structure ObservedRefines (s : SimSystem) (host : Nat) (w : World) (t : Nat) (m : Observed)
    (b : Bus) : Prop where
  live : ∃ o, m.process.drives t = some o ∧ o.mpSystem = some s
  memory : ByteMemory.View m.process.world.mem host b.mem s.sim.memoryBase.toNat
    s.sim.memorySize.toNat
  seen : m.seen = b.seen
  calls : m.process.world.portCalls s.id = w.portCalls s.id ++ b.calls.map (IoCall.event s)

/-- The calls a bus operation adds. -/
theorem bus_step_calls (b : Bus) (op : BusOp) :
    (b.step op).mem = (({ b with calls := [] } : Bus).step op).mem ∧
      (b.step op).seen = (({ b with calls := [] } : Bus).step op).seen ∧
      (b.step op).calls = b.calls ++ (({ b with calls := [] } : Bus).step op).calls := by
  cases op <;> simp [Bus.step]

theorem guest_step_eq (g : Guest) (a : GuestAccess) :
    g.step a = { ctx := g.ctx.access a, seen := (g.step a).seen } := by
  cases a with
  | read bar offset n io => rfl
  | write bar offset val n io => rfl

section Observed

variable {F : Framework} {s : SimSystem} {host t : Nat} {w : World} {m : Observed} {b : Bus}

/-- An operation that reaches neither memory nor ports, and leaves the object with
    its system. -/
theorem ObservedRefines.frame (h : ObservedRefines s host w t m b) {q : Process}
    (hq : Unreached m.process.world q.world)
    (hlive : ∃ o, q.drives t = some o ∧ o.mpSystem = some s) :
    ObservedRefines s host w t { process := q, seen := m.seen } b := by
  refine ⟨hlive, ?_, h.seen, ?_⟩
  · simp only [hq.mem]
    exact h.memory
  · simp only [World.portCalls, hq.ioSlaves]
    exact h.calls

/-- The guest of the object accesses one of its BARs. -/
theorem observedRefines_own (hlin : s.sim.Linear host) (h : ObservedRefines s host w t m b)
    (hrunning : m.process.ended = none) (a : GuestAccess) (ha : a.Valid s) :
    ObservedRefines s host w t (m.step F t (.access t a)) (b.step a.busOp) := by
  rcases h.live with ⟨o, ho, hs⟩
  -- The access starts a refinement of its own, with no calls made yet.
  have hstart : Refines s host { this := o, param := m.process.param, world := m.process.world }
      { ctx := { this := o, param := m.process.param, world := m.process.world }, seen := m.seen }
      { b with calls := [] } :=
    ⟨hs, h.memory, fun _ _ => rfl, h.seen, (List.append_nil _).symm⟩
  have hafter := refines_access hlin hstart a ha
  rcases bus_step_calls b a.busOp with ⟨hmem, hseen, hcalls⟩
  have hstep : m.step F t (.access t a) =
      { process := m.process.onDrive t fun x => x.access a
        seen := (Guest.step { ctx := { this := o, param := m.process.param,
                                       world := m.process.world }, seen := m.seen } a).seen } := by
    simp only [Observed.step, Observed.look, emulatorStep, hrunning, ho, and_self, if_true]
  rw [hstep]
  simp only [Process.onDrive, ho, Process.setDrive]
  rw [guest_step_eq] at hafter
  refine ⟨⟨_, if_pos rfl, hafter.live⟩, ?_, ?_, ?_⟩
  · rw [hmem]
    exact hafter.memory
  · rw [hseen]
    exact hafter.seen
  · have hown : ∀ cs : List IoCall,
        (cs.map (IoCall.event s)).filter (Event.callsPort s.id) = cs.map (IoCall.event s) := by
      intro cs
      refine List.filter_eq_self.mpr fun e he => ?_
      rcases List.mem_map.mp he with ⟨c, _, rfl⟩
      exact beq_self_eq_true _
    rw [World.portCalls, hafter.calls, List.filter_append, hown, hcalls, List.map_append,
      ← List.append_assoc, ← h.calls]
    rfl

/-- The guest of another object accesses one of its BARs. -/
theorem observedRefines_other (h : ObservedRefines s host w t m b)
    (hrunning : m.process.ended = none) {t' : Nat} (hne : t' ≠ t) {o' : TestDrive} {s' : SimSystem}
    {host' : Nat} (ho' : m.process.drives t' = some o') (hs' : o'.mpSystem = some s')
    (hlin' : s'.sim.Linear host')
    (hapart : BlocksApart host s.sim.memorySize.toNat host' s'.sim.memorySize.toNat)
    (hid : s'.id ≠ s.id) (a : GuestAccess) (ha : a.Valid s') :
    ObservedRefines s host w t (m.step F t (.access t' a)) b := by
  -- What the other guest does is a refinement of its own bus.
  have hother := refines_access hlin' (refines_start s' host'
    { this := o', param := m.process.param, world := m.process.world } hs') a ha
  rw [guest_step_eq] at hother
  have hlook : m.look t (.access t' a) = m.seen := by
    unfold Observed.look
    exact if_neg fun heq => hne heq.2
  rw [Observed.step, hlook]
  simp only [emulatorStep, hrunning, Process.onDrive, ho', Process.setDrive]
  rcases h.live with ⟨o, ho, hs⟩
  refine ⟨⟨o, (if_neg (Ne.symm hne)).trans ho, hs⟩, fun i hi => ?_, h.seen, ?_⟩
  · have hout := hother.outside (host + i) (by unfold BlocksApart at hapart; omega)
    exact hout.trans (h.memory i hi)
  · have hnone : ∀ cs : List IoCall,
        (cs.map (IoCall.event s')).filter (Event.callsPort s.id) = [] := by
      intro cs
      refine List.filter_eq_nil_iff.mpr fun e he => ?_
      rcases List.mem_map.mp he with ⟨c, _, rfl⟩
      simp [IoCall.event, Event.callsPort, hid]
    rw [World.portCalls, hother.calls, List.filter_append, hnone, List.append_nil]
    exact h.calls

/-- Devices are plugged in and unplugged beside it. -/
theorem observedRefines_device (hacc : Accounts m.process) (h : ObservedRefines s host w t m b)
    (op : DeviceOp) (hexit : ∀ d dev, op = .exit d → m.process.devices d = some dev →
      dev.pTestDrive ≠ t) :
    ObservedRefines s host w t { process := deviceStep F m.process op, seen := m.seen } b := by
  rcases h.live with ⟨o, ho, hs⟩
  have hnew : t ≠ m.process.objects := fun heq =>
    Option.some_ne_none o (ho.symm.trans (hacc.fresh t (Nat.le_of_eq heq.symm)))
  have heffect := deviceStep_effect F m.process op
  generalize deviceStep F m.process op = q at heffect ⊢
  cases heffect with
  | @realized d script initOk _ =>
      rcases realized_beside F ho hnew d script initOk with ⟨hworld, hdrive⟩
      exact h.frame hworld ⟨o, hdrive, hs⟩
  | @halted d script _ _ _ f =>
      rcases constructed_beside F ho hnew d script with ⟨hworld, hdrive⟩
      exact h.frame hworld ⟨o, hdrive, hs⟩
  | unrealized _ => exact h
  | @exited d dev _ hd =>
      rcases exit_beside ho d dev (hexit d dev rfl hd) with ⟨hworld, hdrive⟩
      exact h.frame hworld ⟨o, hdrive, hs⟩
  | unexited _ => exact h

/-- Any operation of the process beside the device. -/
theorem observedRefines_step (hlin : s.sim.Linear host) (hacc : Accounts m.process)
    (h : ObservedRefines s host w t m b) (op : EmulatorOp) (hop : op.Beside t s host m.process) :
    ObservedRefines s host w t (m.step F t op) (Runs.run Bus.step b (op.busOps t)) := by
  rcases h.live with ⟨o, ho, hs⟩
  cases op with
  | access t' a =>
      rcases hop with ⟨hrunning, hop⟩
      simp only [EmulatorOp.busOps]
      by_cases heq : t' = t
      · rw [if_pos heq] at hop
        rw [if_pos heq, heq]
        exact observedRefines_own hlin h hrunning a hop
      · rw [if_neg heq] at hop
        rw [if_neg heq]
        rcases hop with ⟨o', s', host', ho', hs', hlin', hapart, ha⟩
        -- A system is held by one object only.
        have hid : s'.id ≠ s.id := fun hsame => heq (hacc.apart .system t' t s.id
          ⟨o', ho', congrArg (Option.map SimSystem.id) hs' |>.trans (congrArg some hsame)⟩
          ⟨o, ho, congrArg (Option.map SimSystem.id) hs⟩)
        exact observedRefines_other h hrunning heq ho' hs' hlin' hapart hid a ha
  | device op =>
      rw [Observed.step, emulatorStep_device]
      refine observedRefines_device hacc h op fun d dev heq hd => ?_
      subst heq
      exact hop dev hd
  | displayUpdate d width height =>
      unfold Observed.step emulatorStep
      simp only
      split
      · exact h
      · split
        · rename_i dev _
          rcases refresh_beside ho hs dev.pTestDrive width height with ⟨hworld, hlive⟩
          exact h.frame hworld hlive
        · exact h

/-- Any run of the process beside the device, with an invariant of the process that
    tells what may happen there. -/
theorem observedRefines_run (hlin : s.sim.Linear host) {I : Process → Prop}
    {C : Process → EmulatorOp → Prop}
    (hinv : ∀ p op, Accounts p → I p → C p op → I (emulatorStep F p op))
    (hbeside : ∀ p op, I p → (∃ o, p.drives t = some o ∧ o.mpSystem = some s) → C p op →
      op.Beside t s host p)
    (ops : List EmulatorOp) (hacc : Accounts m.process) (hI : I m.process)
    (h : ObservedRefines s host w t m b) (heach : Runs.Each (emulatorStep F) C m.process ops) :
    ObservedRefines s host w t (Runs.run (Observed.step F t) m ops)
      (Runs.run Bus.step b (ops.flatMap (EmulatorOp.busOps t))) := by
  -- The process runs in the same way with and without an observer.
  have hobserved : Runs.Each (Observed.step F t) (fun m op => C m.process op) m ops :=
    (Runs.each_simulates (Observed.step F t) (emulatorStep F)
      (R := fun m p => m.process = p) (fun m p op hp => by rw [← hp]; rfl)
      (fun m p op hp => by rw [hp]) ops m m.process rfl).mpr heach
  refine (Runs.run_simulates_flatMap (Observed.step F t) Bus.step (EmulatorOp.busOps t)
    (R := fun m b => Accounts m.process ∧ I m.process ∧ ObservedRefines s host w t m b)
    (fun m b op hop hm => ?_) ops m b hobserved ⟨hacc, hI, h⟩).2.2
  rcases hm with ⟨hacc, hI, h⟩
  exact ⟨accounts_step F hacc op, hinv m.process op hacc hI hop,
    observedRefines_step hlin hacc h op (hbeside m.process op hI h.live hop)⟩

/-- A device that is plugged in is on the flat bus of its system. -/
theorem observedRefines_start {p : Process} {o : TestDrive} (ho : p.drives t = some o)
    (hs : o.mpSystem = some s) :
    ObservedRefines s host p.world t { process := p, seen := [] }
      (Bus.of s host { this := o, param := p.param, world := p.world }) := by
  refine ⟨⟨o, ho, hs⟩, fun i _ => ?_, rfl, (List.append_nil _).symm⟩
  simp only [Bus.of, Nat.add_sub_cancel_left]

end Observed

/-- A device that is plugged in, whatever went before, holds a system whose memory
    is linear. Devices come and go around it, and their guests access them; their
    systems keep memories of their own. Then what its guest reads, the memory of its
    system and the calls on its port are those of one flat bus, on which its own
    accesses run alone. -/
theorem device_refines_bus (F : Framework) (before ops : List EmulatorOp) (t : Nat) (o : TestDrive)
    (s : SimSystem) (host : Nat)
    (ho : (Runs.run (emulatorStep F) Process.start before).drives t = some o)
    (hs : o.mpSystem = some s) (hlin : s.sim.Linear host)
    (hbeside : Runs.Each (emulatorStep F) (EmulatorOp.Beside t s host)
      (Runs.run (emulatorStep F) Process.start before) ops) :
    let p := Runs.run (emulatorStep F) Process.start before
    ObservedRefines s host p.world t
      (Runs.run (Observed.step F t) { process := p, seen := [] } ops)
      (Runs.run Bus.step (Bus.of s host { this := o, param := p.param, world := p.world })
        (ops.flatMap (EmulatorOp.busOps t))) := by
  exact observedRefines_run hlin (I := fun _ => True) (fun _ _ _ _ _ => trivial)
    (fun _ _ _ _ hop => hop) ops (accounts_run F before) trivial (observedRefines_start ho hs)
    hbeside

/-- The system of the first device, with one page of memory. -/
def firstSystem : SimSystem :=
  { id := 0, sim := ISystemSim.flat 0x80000000 0x1000 0x1000 }

/-- The system of the second device, from the same module. Its page is elsewhere. -/
def secondSystem : SimSystem :=
  { id := 1, sim := ISystemSim.flat 0x80000000 0x1000 0x20000 }

/-- A setup script that loads a module, makes a BAR over its page of memory and enables
    a display. The script of the system asks for the size of the memory. -/
def pageScript (sim : ISystemSim) : Option SetupScript :=
  some
    { newstate := some 0
      setup :=
        { calls := [.loadSystemModule "system.so" (.success sim),
            .createBAR (some "memory") (.int64 0x1000) (.int64 0x80000000) .nil .nil,
            .enableDisplay 4 4 .nil .nil]
          ending := .ok 0 }
      simulation := some { calls := [.getMemorySize], ending := .ok 0 } }

/-- The BAR it makes on the object `t`, whose system has the number `t` as well. -/
def pageBAR (t host : Nat) : TestdrivePciBar :=
  { pTestDrive := some t, byteSize := 0x1000, bindAddress := 0x80000000
    pMem := some { sys := t, addr := host }, name := "testdrive_bar0", option := ⟨0x100⟩ }

/-- A second device is plugged in beside the first one with the same script, both guests
    write, the screen of the second is refreshed, and it is unplugged again. -/
def pairOps : List EmulatorOp :=
  [.device (.realize 1 (pageScript secondSystem.sim) true),
    .access 0 (.write (pageBAR 0 0x1000) 0x12 0x11223344 4 0),
    .access 1 (.write (pageBAR 1 0x20000) 0x12 0x55667788 4 0), .displayUpdate 1 4 4,
    .access 0 (.read (pageBAR 0 0x1000) 0x12 4 0), .device (.exit 1)]

theorem device_refines_bus_pair :
    let p := Runs.run (emulatorStep Framework.standard) Process.start
      [.device (.realize 0 (pageScript firstSystem.sim) true)]
    let q := Runs.run (emulatorStep Framework.standard) p (pairOps.take 1)
    (q.deref { owner := 0, key := 0 } = some (pageBAR 0 0x1000) ∧
      q.deref { owner := 1, key := 0 } = some (pageBAR 1 0x20000)) ∧
    ∃ o, ObservedRefines firstSystem 0x1000 p.world 0
      (Runs.run (Observed.step Framework.standard 0) { process := p, seen := [] } pairOps)
      (Runs.run Bus.step
        (Bus.of firstSystem 0x1000 { this := o, param := p.param, world := p.world })
        (pairOps.flatMap (EmulatorOp.busOps 0))) := by
  refine ⟨⟨rfl, rfl⟩, _, device_refines_bus Framework.standard
    [.device (.realize 0 (pageScript firstSystem.sim) true)] pairOps 0 _ firstSystem 0x1000 rfl rfl
    (ISystemSim.flat_linear _ _ _) ?_⟩
  have hfirst : (pageBAR 0 0x1000).BoundTo firstSystem :=
    Or.inr (by unfold ISystemSim.InWindow; decide)
  have hsecond : (pageBAR 1 0x20000).BoundTo secondSystem :=
    Or.inr (by unfold ISystemSim.InWindow; decide)
  simp only [pairOps, Runs.each_cons]
  refine ⟨trivial, ⟨rfl, hfirst, by decide, by decide⟩, ⟨rfl, ?_⟩, trivial,
    ⟨rfl, hfirst, by decide, by decide⟩, fun dev hdev => ?_, Runs.each_nil _ _ _⟩
  · exact ⟨_, secondSystem, 0x20000, rfl, rfl, ISystemSim.flat_linear _ _ _, Or.inl (by decide),
      hsecond, by decide, by decide⟩
  · rw [← Option.some.inj hdev]
    decide

end QemuTestdrive
