import QemuTestdrive.Lib.Runs
import QemuTestdrive.Theory.Window

/-!
# BAR Accesses as a Flat Bus

What a guest sees of the device, whatever BARs the device has set up: one flat
byte-addressed memory with a port beside it. A BAR is a window onto the bus at
its bind address. Where it has a direct pointer the access is a load or a store
of the bus memory, and where it has none a 4-byte access is a call on the port
and any other access is refused.

`Bus` is that abstraction, with nothing in it about BARs, pointers or systems.
`Refines` relates it to the program: the device memory is a view of the bus
memory, the calls on the port are the `io_slave` calls of the trace, and the
guest has read the same values. One access keeps the relation, so any number of
them does. Aliasing needs no argument of its own: two BARs that overlap are two
windows onto the same bus addresses.

## Main definitions

* `Bus`: The flat bus.
* `BusOp`: An operation of the bus.
* `GuestAccess.busOp`: The operation an access stands for.
* `Guest`: The program with what the guest has read so far.
* `GuestAccess.Valid`: An access inside a BAR of a live system.
* `Refines`: The relation between the program and the bus.
* `BusOp.Misses`: An operation that stores nothing in a range.

## Theorems

* `directRead_toNat_mod`: The low bytes of a direct read.
* `refines_read`, `refines_write`: One access keeps the relation.
* `guest_refines_bus`: The guest's accesses are those of the flat bus.
* `write_readBack`: What is written through one BAR is read back through another.
-/

namespace QemuTestdrive

/-- A call on the port of the bus. -/
structure IoCall where
  bWrite : Bool
  addr : UInt64
  val : UInt32

/-- A flat byte-addressed memory with a port: the calls made on the port, and
    the values read so far. -/
structure Bus where
  mem : Nat → UInt8
  calls : List IoCall
  seen : List Nat

/-- An operation of the bus. A read of the port hands out a word of ones and
    gets the answer back. -/
inductive BusOp where
  | load (addr n : Nat)
  | store (addr n v : Nat)
  | ioRead (addr : UInt64) (answer : UInt32)
  | ioWrite (addr : UInt64) (val : UInt32)
  | refusedRead
  | refusedWrite

/-- The effect of an operation of the bus. -/
def Bus.step (b : Bus) : BusOp → Bus
  | .load addr n => { b with seen := b.seen ++ [ByteMemory.load b.mem addr n] }
  | .store addr n v => { b with mem := ByteMemory.store b.mem addr n v }
  | .ioRead addr answer =>
      { b with
        calls := b.calls ++ [{ bWrite := false, addr := addr, val := 0xFFFFFFFF }]
        seen := b.seen ++ [answer.toNat] }
  | .ioWrite addr val =>
      { b with calls := b.calls ++ [{ bWrite := true, addr := addr, val := val }] }
  | .refusedRead => { b with seen := b.seen ++ [0xFFFFFFFF] }
  | .refusedWrite => b

/-- The operation an access stands for. A direct access is at the bus address
    `bind_address + offset`, and an access to the port is at the same address
    modulo 2^64. -/
def GuestAccess.busOp : GuestAccess → BusOp
  | .read bar offset n io =>
      if bar.pMem.isSome then .load (bar.bindAddress.toNat + offset.toNat) n
      else if n = 4 then .ioRead (bar.bindAddress + offset) io
      else .refusedRead
  | .write bar offset val n _ =>
      if bar.pMem.isSome then .store (bar.bindAddress.toNat + offset.toNat) n val.toNat
      else if n = 4 then .ioWrite (bar.bindAddress + offset) val.toUInt32
      else .refusedWrite

/-- The program, and what the guest has read: of a direct read the bytes it
    asked for, and of any other read the whole value. -/
structure Guest where
  ctx : Ctx
  seen : List Nat

/-- The effect of an access. -/
def Guest.step (g : Guest) : GuestAccess → Guest
  | .read bar offset n io =>
      let r := g.ctx.testdriveBarRead bar offset n io
      { ctx := r.1
        seen := g.seen ++ [if bar.pMem.isSome then r.2.toNat % 256 ^ n else r.2.toNat] }
  | .write bar offset val n io => { g with ctx := g.ctx.testdriveBarWrite bar offset val n io }

/-- The BAR has no direct pointer, or the one of its bind address with its whole
    range in the window of `s`. -/
def TestdrivePciBar.BoundTo (bar : TestdrivePciBar) (s : SimSystem) : Prop :=
  bar.pMem = none ∨
    bar.pMem = s.getMemoryPointer bar.bindAddress ∧
      s.sim.InWindow bar.bindAddress.toNat bar.byteSize.toNat

/-- An access of an allowed size inside a BAR. -/
def GuestAccess.Valid (s : SimSystem) : GuestAccess → Prop
  | .read bar offset n _ =>
      bar.BoundTo s ∧ n ∈ [1, 2, 4] ∧ offset.toNat + n ≤ bar.byteSize.toNat
  | .write bar offset _ n _ =>
      bar.BoundTo s ∧ n ∈ [1, 2, 4] ∧ offset.toNat + n ≤ bar.byteSize.toNat

/-- An `io_slave` call of some system. -/
def Event.isIoSlave : Event → Bool
  | .ioSlave _ _ _ _ => true
  | _ => false

/-- The `io_slave` calls made so far. -/
def World.ioSlaves (w : World) : List Event :=
  w.trace.filter Event.isIoSlave

/-- The `io_slave` call on `s` that a call on the port stands for. -/
def IoCall.event (s : SimSystem) (c : IoCall) : Event :=
  .ioSlave s.id c.bWrite c.addr c.val

/-- The program started in `x` is at a point where the flat bus is at `b`. -/
structure Refines (s : SimSystem) (host : Nat) (x : Ctx) (g : Guest) (b : Bus) : Prop where
  live : g.ctx.this.mpSystem = some s
  memory : ByteMemory.View g.ctx.world.mem host b.mem s.sim.memoryBase.toNat
    s.sim.memorySize.toNat
  outside : ∀ i, i < host ∨ host + s.sim.memorySize.toNat ≤ i →
    g.ctx.world.mem i = x.world.mem i
  seen : g.seen = b.seen
  calls : g.ctx.world.ioSlaves = x.world.ioSlaves ++ b.calls.map (IoCall.event s)

theorem ioSlaves_emit (w : World) (e : Event) :
    (w.emit e).ioSlaves = w.ioSlaves ++ if e.isIoSlave then [e] else [] := by
  unfold World.ioSlaves World.emit
  rw [List.filter_append]
  cases h : e.isIoSlave with
  | true => rw [List.filter_cons_of_pos h, List.filter_nil, if_pos rfl]
  | false =>
      rw [List.filter_cons_of_neg (by rw [h]; exact Bool.false_ne_true), List.filter_nil,
        if_neg Bool.false_ne_true]

/-- The low bytes of a direct read are the bytes of memory: the ones that are
    left of the preset value start above them. -/
theorem directRead_toNat_mod (bytes n : Nat) (hn : n ∈ [1, 2, 4]) (hlt : bytes < 256 ^ n) :
    (UInt32.ofNat (bytes + (0xFFFFFFFF : UInt32).toNat / 256 ^ n * 256 ^ n)).toUInt64.toNat %
      256 ^ n = bytes := by
  -- The access is no wider than the 32-bit temporary, so nothing of it is cut off.
  have hdvd : 256 ^ n ∣ 2 ^ 32 := by
    simp only [List.mem_cons, List.not_mem_nil, or_false] at hn
    rcases hn with rfl | rfl | rfl <;> decide
  rw [UInt32.toNat_toUInt64, UInt32.toNat_ofNat', Nat.mod_mod_of_dvd _ hdvd,
    Nat.add_mul_mod_self_right, Nat.mod_eq_of_lt hlt]

/-- Where an access at `offset` of a bound BAR goes. -/
theorem BoundTo.pointer {bar : TestdrivePciBar} {s : SimSystem} {host : Nat} {p : HostPtr}
    (hlin : s.sim.Linear host) (hbound : bar.BoundTo s) (hp : bar.pMem = some p)
    {offset : UInt64} {n : Nat} (hpos : 0 < n) (hn : offset.toNat + n ≤ bar.byteSize.toNat) :
    ∃ k, (p.add offset.toNat).addr = host + k ∧
      bar.bindAddress.toNat + offset.toNat = s.sim.memoryBase.toNat + k ∧
      k + n ≤ s.sim.memorySize.toNat := by
  rcases hbound with hnone | ⟨hget, hin⟩
  · rw [hp] at hnone
    simp only [reduceCtorEq] at hnone
  · have hptr := InWindow.getMemoryPointer_eq s bar.bindAddress bar.byteSize hlin hin (by omega)
    rw [hp, hptr, Option.some.injEq] at hget
    rcases hin with ⟨hlo, hhi⟩
    -- `k` is the distance from the start of the memory, on the host and on the bus.
    refine ⟨bar.bindAddress.toNat - s.sim.memoryBase.toNat + offset.toNat, ?_, by omega, by omega⟩
    rw [hget]
    simp only [HostPtr.add]
    omega

section Access

variable {s : SimSystem} {host : Nat} {x : Ctx} {g : Guest} {b : Bus}

/-- A read keeps the relation. -/
theorem refines_read (hlin : s.sim.Linear host) (h : Refines s host x g b)
    (bar : TestdrivePciBar) (offset : UInt64) (n : Nat) (io : UInt32)
    (hvalid : (GuestAccess.read bar offset n io).Valid s) :
    Refines s host x (g.step (.read bar offset n io))
      (b.step (GuestAccess.read bar offset n io).busOp) := by
  rcases hvalid with ⟨hbound, hn, hoffset⟩
  rcases hmem : bar.pMem with _ | p
  · by_cases h4 : n = 4
    · -- The port is asked, and its answer is what the guest reads.
      simp only [Guest.step, GuestAccess.busOp, Ctx.testdriveBarRead, hmem, Option.isSome_none,
        Bool.false_eq_true, if_false, if_pos h4, Ctx.memIO, h.live, Bus.step]
      refine ⟨h.live, h.memory, h.outside, ?_, ?_⟩
      · rw [h.seen, UInt32.toNat_toUInt64]
      · rw [Ctx.emit, ioSlaves_emit, h.calls, List.map_append, List.append_assoc,
          UInt64.add_comm bar.bindAddress offset]
        rfl
    · -- A port read of another size is refused, and the value stays all ones.
      simp only [Guest.step, GuestAccess.busOp, Ctx.testdriveBarRead, hmem, Option.isSome_none,
        Bool.false_eq_true, if_false, if_neg h4, Bus.step]
      refine ⟨h.live, h.memory, h.outside, ?_, ?_⟩
      · rw [h.seen]
        rfl
      · rw [Ctx.log, Ctx.emit, ioSlaves_emit, h.calls]
        exact List.append_nil _
  · -- A direct read: the same bytes at the same distance from the start of the memory.
    have hpos : 0 < n := by
      simp only [List.mem_cons, List.not_mem_nil, or_false] at hn
      omega
    rcases BoundTo.pointer hlin hbound hmem hpos hoffset with ⟨k, hhost, hbus, hk⟩
    simp only [Guest.step, GuestAccess.busOp, Ctx.testdriveBarRead, hmem, Option.isSome_some,
      if_true, Bus.step]
    refine ⟨h.live, h.memory, h.outside, ?_, ?_⟩
    · rw [directRead_toNat_mod _ n hn (ByteMemory.load_lt _ _ n), hhost, hbus,
        h.memory.load_eq n k hk, h.seen]
    · rw [Ctx.emit, ioSlaves_emit, h.calls]
      exact List.append_nil _

/-- A write keeps the relation. -/
theorem refines_write (hlin : s.sim.Linear host) (h : Refines s host x g b)
    (bar : TestdrivePciBar) (offset val : UInt64) (n : Nat) (io : UInt32)
    (hvalid : (GuestAccess.write bar offset val n io).Valid s) :
    Refines s host x (g.step (.write bar offset val n io))
      (b.step (GuestAccess.write bar offset val n io).busOp) := by
  rcases hvalid with ⟨hbound, hn, hoffset⟩
  rcases hmem : bar.pMem with _ | p
  · by_cases h4 : n = 4
    · -- The port gets the value, and the memory stays on both sides.
      simp only [Guest.step, GuestAccess.busOp, Ctx.testdriveBarWrite, hmem, Option.isSome_none,
        Bool.false_eq_true, if_false, if_pos h4, Ctx.memIO, h.live, Bus.step]
      refine ⟨h.live, h.memory, h.outside, h.seen, ?_⟩
      rw [Ctx.emit, ioSlaves_emit, h.calls, List.map_append, List.append_assoc,
        UInt64.add_comm bar.bindAddress offset]
      rfl
    · simp only [Guest.step, GuestAccess.busOp, Ctx.testdriveBarWrite, hmem, Option.isSome_none,
        Bool.false_eq_true, if_false, if_neg h4, Bus.step]
      refine ⟨h.live, h.memory, h.outside, h.seen, ?_⟩
      rw [Ctx.log, Ctx.emit, ioSlaves_emit, h.calls]
      exact List.append_nil _
  · have hpos : 0 < n := by
      simp only [List.mem_cons, List.not_mem_nil, or_false] at hn
      omega
    rcases BoundTo.pointer hlin hbound hmem hpos hoffset with ⟨k, hhost, hbus, hk⟩
    simp only [Guest.step, GuestAccess.busOp, Ctx.testdriveBarWrite, hmem, Option.isSome_some,
      if_true, Bus.step]
    rw [hhost, hbus]
    refine ⟨h.live, h.memory.store k n val.toNat, fun i hi => ?_, h.seen, ?_⟩
    · -- The bytes stored are inside the window, so the rest of the host is as before.
      rw [← h.outside i hi]
      exact ByteMemory.store_outside _ _ _ _ _ (by omega)
    · rw [Ctx.emit, ioSlaves_emit]
      rw [show (if (Event.memcpy true (p.add offset.toNat) n).isIoSlave then
        [Event.memcpy true (p.add offset.toNat) n] else []) = [] from rfl, List.append_nil]
      exact h.calls

/-- An access keeps the relation. -/
theorem refines_access (hlin : s.sim.Linear host) (h : Refines s host x g b) (a : GuestAccess)
    (ha : a.Valid s) : Refines s host x (g.step a) (b.step a.busOp) := by
  cases a with
  | read bar offset n io => exact refines_read hlin h bar offset n io ha
  | write bar offset val n io => exact refines_write hlin h bar offset val n io ha

/-- Any accesses keep the relation. -/
theorem refines_run (hlin : s.sim.Linear host) (h : Refines s host x g b)
    (as : List GuestAccess) (hvalid : ∀ a ∈ as, a.Valid s) :
    Refines s host x (Runs.run Guest.step g as)
      (Runs.run Bus.step b (as.map GuestAccess.busOp)) :=
  Runs.run_simulates Guest.step Bus.step GuestAccess.busOp (R := Refines s host x)
    (fun _ _ a ha hR => refines_access hlin hR a ha) as g b hvalid h

end Access

/-- The flat bus whose memory is the device memory of a state. -/
def Bus.of (s : SimSystem) (host : Nat) (x : Ctx) : Bus :=
  { mem := fun addr => x.world.mem (host + (addr - s.sim.memoryBase.toNat)), calls := []
    seen := [] }

theorem refines_start (s : SimSystem) (host : Nat) (x : Ctx) (hs : x.this.mpSystem = some s) :
    Refines s host x { ctx := x, seen := [] } (Bus.of s host x) := by
  refine ⟨hs, fun i _ => ?_, fun i _ => rfl, rfl, (List.append_nil _).symm⟩
  simp only [Bus.of, Nat.add_sub_cancel_left]

/-- With a live system whose memory is linear, any sequence of accesses inside
    the BARs leaves the device memory, the values read and the `io_slave` calls
    of one flat bus, and does not touch the host memory around the device's. -/
theorem guest_refines_bus (s : SimSystem) (host : Nat) (x : Ctx)
    (hs : x.this.mpSystem = some s) (hlin : s.sim.Linear host) (as : List GuestAccess)
    (hvalid : ∀ a ∈ as, a.Valid s) :
    Refines s host x (Runs.run Guest.step { ctx := x, seen := [] } as)
      (Runs.run Bus.step (Bus.of s host x) (as.map GuestAccess.busOp)) :=
  refines_run hlin (refines_start s host x hs) as hvalid

section ReadBack

/-- The operation stores nothing in the `n` bytes at `addr`. -/
def BusOp.Misses (addr n : Nat) : BusOp → Prop
  | .store a k _ => addr + n ≤ a ∨ a + k ≤ addr
  | _ => True

/-- Bytes in which nothing is stored stay. -/
theorem load_busStep (b : Bus) {addr n : Nat} {op : BusOp} (h : op.Misses addr n) :
    ByteMemory.load (b.step op).mem addr n = ByteMemory.load b.mem addr n := by
  cases op with
  | store a k v => exact ByteMemory.load_store_outside b.mem a k v addr n h
  | load a k => rfl
  | ioRead a answer => rfl
  | ioWrite a val => rfl
  | refusedRead => rfl
  | refusedWrite => rfl

theorem load_busRun {addr n : Nat} (ops : List BusOp) (h : ∀ op ∈ ops, op.Misses addr n)
    (b : Bus) :
    ByteMemory.load (Runs.run Bus.step b ops).mem addr n = ByteMemory.load b.mem addr n := by
  induction ops generalizing b with
  | nil => rfl
  | cons op ops ih =>
      rw [Runs.run_cons, ih (fun op' hop' => h op' (List.mem_cons_of_mem op hop')),
        load_busStep b (h op List.mem_cons_self)]

variable {s : SimSystem} {host : Nat} {x : Ctx} {g : Guest} {b : Bus}

/-- What the guest writes through one BAR it reads back through every BAR that reaches
    the bytes, until it writes there again: the BARs are windows onto one memory. -/
theorem write_readBack (hlin : s.sim.Linear host) (h : Refines s host x g b)
    {bar bar' : TestdrivePciBar} {offset offset' val : UInt64} {n n' : Nat} {io io' : UInt32}
    (hwrite : (GuestAccess.write bar offset val n io).Valid s)
    (hread : (GuestAccess.read bar' offset' n' io').Valid s)
    (hdirect : bar.pMem.isSome = true) (hdirect' : bar'.pMem.isSome = true)
    (hlo : bar.bindAddress.toNat + offset.toNat ≤ bar'.bindAddress.toNat + offset'.toNat)
    (hhi : bar'.bindAddress.toNat + offset'.toNat + n' ≤
      bar.bindAddress.toNat + offset.toNat + n)
    (as : List GuestAccess) (hvalid : ∀ a ∈ as, a.Valid s)
    (hmiss : ∀ a ∈ as, a.busOp.Misses (bar'.bindAddress.toNat + offset'.toNat) n') :
    let g' := Runs.run Guest.step (g.step (.write bar offset val n io)) as
    (g'.step (.read bar' offset' n' io')).seen = g'.seen ++
      [val.toNat / 256 ^ (bar'.bindAddress.toNat + offset'.toNat -
        (bar.bindAddress.toNat + offset.toNat)) % 256 ^ n'] := by
  intro g'
  have hstored := refines_write hlin h bar offset val n io hwrite
  have hrun := refines_run hlin hstored as hvalid
  have hseen := (refines_read hlin hrun bar' offset' n' io' hread).seen
  have hload := load_busRun (as.map GuestAccess.busOp) (List.forall_mem_map.mpr hmiss)
    (b.step (GuestAccess.write bar offset val n io).busOp)
  simp only [GuestAccess.busOp, if_pos hdirect, if_pos hdirect', Bus.step] at hseen hload
  rw [hload, ByteMemory.load_store_inside b.mem _ n val.toNat n' _ hlo hhi] at hseen
  rw [hseen, hrun.seen]
  simp only [GuestAccess.busOp, if_pos hdirect, Bus.step]

end ReadBack

/-- A direct BAR at the address `addr` of a module whose memory starts at
    0x80000000. -/
def directBAR (addr byteSize : UInt64) : TestdrivePciBar :=
  { TestdrivePciBar.zero with
    byteSize := byteSize, bindAddress := addr
    pMem := some { sys := 0, addr := 0x1000 + (addr.toNat - 0x80000000) } }

/-- A write through one BAR read back through an overlapping one, and accesses
    of two sizes to a BAR without a pointer. -/
def aliasingAccesses : List GuestAccess :=
  [.write (directBAR 0x80000000 0x1000) 0x12 0x11223344 4 0,
    .read (directBAR 0x80000010 0x100) 3 2 0,
    .write { TestdrivePciBar.zero with byteSize := 0x100 } 8 0xAABBCCDDEE 4 0,
    .read { TestdrivePciBar.zero with byteSize := 0x100 } 8 2 0]

theorem guest_refines_bus_aliasing :
    Refines { id := 0, sim := ISystemSim.flat 0x80000000 0x100000 0x1000 } 0x1000
      (Ctx.loaded 0x80000000 0x100000)
      (Runs.run Guest.step { ctx := Ctx.loaded 0x80000000 0x100000, seen := [] } aliasingAccesses)
      (Runs.run Bus.step (Bus.of { id := 0, sim := ISystemSim.flat 0x80000000 0x100000 0x1000 }
        0x1000 (Ctx.loaded 0x80000000 0x100000)) (aliasingAccesses.map GuestAccess.busOp)) := by
  refine guest_refines_bus _ 0x1000 _ rfl (ISystemSim.flat_linear _ _ _) aliasingAccesses ?_
  have hbound : ∀ bar : TestdrivePciBar,
      bar = directBAR 0x80000000 0x1000 ∨ bar = directBAR 0x80000010 0x100 →
      bar.BoundTo { id := 0, sim := ISystemSim.flat 0x80000000 0x100000 0x1000 } := by
    intro bar hbar
    unfold TestdrivePciBar.BoundTo ISystemSim.InWindow
    rcases hbar with rfl | rfl
    · exact Or.inr (by decide)
    · exact Or.inr (by decide)
  simp only [aliasingAccesses, List.forall_mem_cons, GuestAccess.Valid]
  exact ⟨⟨hbound _ (Or.inl rfl), by decide, by decide⟩,
    ⟨hbound _ (Or.inr rfl), by decide, by decide⟩, ⟨Or.inl rfl, by decide, by decide⟩,
    ⟨Or.inl rfl, by decide, by decide⟩, fun _ h => absurd h List.not_mem_nil⟩

end QemuTestdrive
