import QemuTestdrive.Core.Access
import QemuTestdrive.Theory.BarSlots
import QemuTestdrive.Theory.SizeCorrection

/-!
# The Window of a Direct Pointer

`CreateBAR` hands a BAR a direct pointer when the BAR's range lies inside the
system's memory, and from then on guest accesses copy bytes through it without
any further check. Everything therefore depends on the one comparison, which
adds 64-bit words on both sides.

A module promises that `GetMemoryPointer` is linear over its memory window,
which `Linear` states. Under that promise a pointer that was handed out for a
range inside the window is good for the whole range. The comparison is about
the range exactly when neither sum goes wrong. They go wrong in two ways: the
end of the BAR wraps to a small number, which accepts a range that leaves the
window, and the end of a window that reaches the top of the address space wraps
to zero, which turns away ranges that lie inside.

## Main definitions

* `ISystemSim.Linear`: `GetMemoryPointer` follows the window from `host` on.
* `ISystemSim.InWindow`: A range inside the window, over the natural numbers.
* `ISystemSim.WindowWraps`: One of the two sums goes wrong.
* `TouchesOnly`: An access that stays inside the system's memory.
* `DirectWindow`: A BAR whose direct pointer is there when it should be, and
  safe to use.

## Theorems

* `directPointer_isSome_iff`: The comparison, over the natural numbers.
* `directPointer_window`: When it decides the right question.
* `createBAR_size`: The size of a BAR.
* `createBAR_window`: When a BAR's direct pointer is right.
-/

namespace QemuTestdrive

/-- `GetMemoryPointer` follows the memory window, whose first byte is at the
    host address `host`. -/
def ISystemSim.Linear (sim : ISystemSim) (host : Nat) : Prop :=
  ∀ addr : UInt64, sim.memoryBase.toNat ≤ addr.toNat →
    addr.toNat < sim.memoryBase.toNat + sim.memorySize.toNat →
    sim.memoryPointer addr = some (host + (addr.toNat - sim.memoryBase.toNat))

theorem ISystemSim.flat_linear (memoryBase memorySize : UInt64) (host : Nat) :
    (ISystemSim.flat memoryBase memorySize host).Linear host := by
  intro addr hlo hhi
  exact if_pos ⟨hlo, hhi⟩

/-- The `size` bytes at `addr` lie in the memory window. -/
def ISystemSim.InWindow (sim : ISystemSim) (addr size : Nat) : Prop :=
  sim.memoryBase.toNat ≤ addr ∧ addr + size ≤ sim.memoryBase.toNat + sim.memorySize.toNat

/-- The comparison of `CreateBAR` is misled: either the end of the BAR wraps,
    to an address not past the end of the window, or the window ends at the top
    of the address space and the BAR ends below it. -/
def ISystemSim.WindowWraps (sim : ISystemSim) (addr : UInt64) (size : Nat) : Prop :=
  sim.memoryBase.toNat ≤ addr.toNat ∧
    ((sim.memoryBase.toNat + sim.memorySize.toNat < 2 ^ 64 ∧ 2 ^ 64 ≤ addr.toNat + size ∧
        addr.toNat + size - 2 ^ 64 ≤ sim.memoryBase.toNat + sim.memorySize.toNat ∧
        (sim.memoryPointer addr).isSome) ∨
      (sim.memoryBase.toNat + sim.memorySize.toNat = 2 ^ 64 ∧ addr.toNat + size < 2 ^ 64))

section Pointer

variable (s : SimSystem) (addr size : UInt64)

/-- The comparison of `CreateBAR`, over the natural numbers. -/
theorem directPointer_isSome_iff :
    (directPointer (some s) addr size).isSome ↔
      s.sim.memoryBase.toNat ≤ addr.toNat ∧
        (addr.toNat + size.toNat) % 2 ^ 64 ≤
          (s.sim.memoryBase.toNat + s.sim.memorySize.toNat) % 2 ^ 64 ∧
        (s.sim.memoryPointer addr).isSome := by
  have hcmp : (s.sim.memoryBase ≤ addr ∧ addr + size ≤ s.sim.memoryBase + s.sim.memorySize) ↔
      s.sim.memoryBase.toNat ≤ addr.toNat ∧
        (addr.toNat + size.toNat) % 2 ^ 64 ≤
          (s.sim.memoryBase.toNat + s.sim.memorySize.toNat) % 2 ^ 64 := by
    rw [UInt64.le_iff_toNat_le, UInt64.le_iff_toNat_le, UInt64.toNat_add, UInt64.toNat_add]
  unfold directPointer
  simp only
  -- When it holds, the pointer is what the module returns, which may still be null.
  by_cases h : s.sim.memoryBase ≤ addr ∧ addr + size ≤ s.sim.memoryBase + s.sim.memorySize
  · rw [if_pos h, SimSystem.getMemoryPointer, Option.isSome_map]
    have hnat := hcmp.mp h
    exact ⟨fun hp => ⟨hnat.1, hnat.2, hp⟩, fun hp => hp.2.2⟩
  · rw [if_neg h]
    refine iff_of_false (by decide) fun hp => h (hcmp.mpr ⟨hp.1, hp.2.1⟩)

/-- A pointer handed out is the one `GetMemoryPointer` returns. -/
theorem directPointer_eq_some {p : HostPtr} (h : directPointer (some s) addr size = some p) :
    s.getMemoryPointer addr = some p := by
  unfold directPointer at h
  simp only at h
  split at h
  · exact h
  · simp only [reduceCtorEq] at h

theorem InWindow.getMemoryPointer_eq {host : Nat} (hlin : s.sim.Linear host)
    (hin : s.sim.InWindow addr.toNat size.toNat) (hpos : 0 < size.toNat) :
    s.getMemoryPointer addr =
      some { sys := s.id, addr := host + (addr.toNat - s.sim.memoryBase.toNat) } := by
  rcases hin with ⟨hlo, hhi⟩
  rw [SimSystem.getMemoryPointer, hlin addr hlo (by omega)]
  rfl

/-- The comparison decides whether the range is in the window exactly when no
    sum goes wrong. -/
theorem directPointer_window {host : Nat} (hlin : s.sim.Linear host)
    (hfit : s.sim.memoryBase.toNat + s.sim.memorySize.toNat ≤ 2 ^ 64)
    (hpos : 0 < size.toNat) (hle : size.toNat ≤ 2 ^ 63) :
    ((directPointer (some s) addr size).isSome ↔ s.sim.InWindow addr.toNat size.toNat) ↔
      ¬ s.sim.WindowWraps addr size.toNat := by
  rw [directPointer_isSome_iff]
  have haddr := addr.toNat_lt
  have hptr : s.sim.InWindow addr.toNat size.toNat → (s.sim.memoryPointer addr).isSome := by
    rintro ⟨hlo, hhi⟩
    rw [hlin addr hlo (by omega)]
    rfl
  unfold ISystemSim.InWindow at hptr ⊢
  unfold ISystemSim.WindowWraps
  generalize (s.sim.memoryPointer addr).isSome = ptr at hptr ⊢
  -- Each side wraps at most once, so there are four cases of plain arithmetic.
  by_cases htop : s.sim.memoryBase.toNat + s.sim.memorySize.toNat < 2 ^ 64
  · rw [Nat.mod_eq_of_lt htop]
    by_cases hend : addr.toNat + size.toNat < 2 ^ 64
    · rw [Nat.mod_eq_of_lt hend]
      constructor
      · intro _
        omega
      · intro _
        exact ⟨fun h => ⟨h.1, h.2.1⟩, fun h => ⟨h.1, h.2, hptr h⟩⟩
    · have hmod : (addr.toNat + size.toNat) % 2 ^ 64 = addr.toNat + size.toNat - 2 ^ 64 := by
        omega
      rw [hmod]
      constructor
      · rintro h ⟨hlo, ⟨_, _, hin, hp⟩ | ⟨heq, _⟩⟩
        · have hacc := h.mp ⟨hlo, hin, hp⟩
          omega
        · omega
      · intro h
        refine iff_of_false (fun hacc => h ⟨hacc.1, Or.inl ⟨htop, by omega, hacc.2⟩⟩) ?_
        omega
  · have heq : s.sim.memoryBase.toNat + s.sim.memorySize.toNat = 2 ^ 64 := by omega
    rw [heq, Nat.mod_self]
    by_cases hend : addr.toNat + size.toNat < 2 ^ 64
    · rw [Nat.mod_eq_of_lt hend]
      constructor
      · rintro h ⟨hlo, _⟩
        have hacc := h.mpr ⟨hlo, by omega⟩
        omega
      · intro h
        refine iff_of_false (fun hacc => ?_) fun hin => h ⟨hin.1, Or.inr ⟨rfl, hend⟩⟩
        omega
    · constructor
      · intro _
        omega
      · intro _
        constructor
        · intro hacc
          omega
        · intro hin
          exact ⟨hin.1, by omega, hptr (by omega)⟩

end Pointer

/-- An event is a copy of bytes of the memory of the system `sys`, which are the
    `size` bytes at `host`. -/
def Event.Inside (sys host size : Nat) : Event → Prop
  | .memcpy _ p n => p.sys = sys ∧ host ≤ p.addr ∧ p.addr + n ≤ host + size
  | _ => False

/-- All that happens between `x` and `y` is copying inside the memory of a
    system. -/
def TouchesOnly (sys host size : Nat) (x y : Ctx) : Prop :=
  (∃ es, y.world.trace = x.world.trace ++ es ∧ ∀ e ∈ es, e.Inside sys host size) ∧
    ∀ i, i < host ∨ host + size ≤ i → y.world.mem i = x.world.mem i

/-- The BAR has a direct pointer when its range is in the window of `s`, and
    every guest access through it stays in the memory of `s`. -/
structure DirectWindow (s : SimSystem) (host : Nat) (bar : TestdrivePciBar) : Prop where
  pointer : bar.pMem.isSome ↔ s.sim.InWindow bar.bindAddress.toNat bar.byteSize.toNat
  accesses : bar.pMem.isSome → ∀ n ∈ [1, 2, 4], ∀ offset : UInt64,
    offset.toNat + n ≤ bar.byteSize.toNat → ∀ (x : Ctx) (val : UInt64) (io : UInt32),
      TouchesOnly s.id host s.sim.memorySize.toNat x (x.testdriveBarRead bar offset n io).1 ∧
        TouchesOnly s.id host s.sim.memorySize.toNat x (x.testdriveBarWrite bar offset val n io)

/-- A range in the window is safe to access through its pointer. -/
theorem touchesOnly_of_inWindow {s : SimSystem} {host : Nat} {bar : TestdrivePciBar}
    {p : HostPtr} (hp : bar.pMem = some p) (hsys : p.sys = s.id)
    (haddr : p.addr = host + (bar.bindAddress.toNat - s.sim.memoryBase.toNat))
    (hin : s.sim.InWindow bar.bindAddress.toNat bar.byteSize.toNat) (n : Nat) (offset : UInt64)
    (hn : offset.toNat + n ≤ bar.byteSize.toNat) (x : Ctx) (val : UInt64) (io : UInt32) :
    TouchesOnly s.id host s.sim.memorySize.toNat x (x.testdriveBarRead bar offset n io).1 ∧
      TouchesOnly s.id host s.sim.memorySize.toNat x (x.testdriveBarWrite bar offset val n io) := by
  -- The pointer is as far into the memory as the address is into the window.
  rcases hin with ⟨hlo, hhi⟩
  have hinside : ∀ bWrite, (Event.memcpy bWrite (p.add offset.toNat) n).Inside s.id host
      s.sim.memorySize.toNat := by
    intro bWrite
    simp only [Event.Inside, HostPtr.add]
    exact ⟨hsys, by omega, by omega⟩
  constructor
  · simp only [Ctx.testdriveBarRead, hp]
    refine ⟨⟨_, rfl, fun e he => ?_⟩, fun _ _ => rfl⟩
    rw [List.mem_singleton.mp he]
    exact hinside false
  · simp only [Ctx.testdriveBarWrite, hp]
    refine ⟨⟨_, rfl, fun e he => ?_⟩, fun i hi => ?_⟩
    · rw [List.mem_singleton.mp he]
      exact hinside true
    · exact ByteMemory.store_outside _ _ _ _ _ (by simp only [HostPtr.add]; omega)

/-- A successful `CreateBAR` stores the record it asked for. -/
theorem createBAR_stored {F : Framework} {x : Ctx} {sType : String} {size addr b64 pf : LuaRef}
    {m a : UInt64} (hsize : Decodes F size m) (haddr : Decodes F addr a)
    (hok : (x.createBAR F (some sType) size addr b64 pf).2 = .ok true) :
    (x.createBAR F (some sType) size addr b64 pf).1.this.mBARs.lookup
        (x.requested F sType m a b64 pf).option.barId.toNat =
      some (x.finalBAR (x.requested F sType m a b64 pf)) := by
  have htype : 0 ≤ F.retrieveTag sType addressSpaceType := by
    by_contra hneg
    rw [Ctx.createBAR] at hok
    simp only [if_pos (Int.not_le.mp hneg)] at hok
    exact absurd hok (by decide)
  -- The slots were left, or the call would have returned false.
  rcases createBAR_of_decodes F x b64 pf htype hsize haddr with ⟨y, _, hyes, hno⟩
  by_cases hfit : (x.requested F sType m a b64 pf).Fits
  · rw [hyes hfit]
    exact AList.lookup_insert _
  · rcases hno hfit with ⟨z, _, heq⟩
    rw [heq] at hok
    exact Bool.noConfusion (Except.ok.inj hok)

/-- The size of a BAR: a request that is not zero is corrected, and the BAR a
    successful `CreateBAR` stores has the corrected size. -/
theorem createBAR_size (m : UInt64) (hm : m ≠ 0) :
    SizeCorrected m ∧
      ∀ (F : Framework) (x : Ctx) (sType : String) (size addr b64 pf : LuaRef) (a : UInt64),
        Decodes F size m → Decodes F addr a →
          (x.createBAR F (some sType) size addr b64 pf).2 = .ok true →
            ∃ bar, (x.createBAR F (some sType) size addr b64 pf).1.this.mBARs.lookup
                (x.requested F sType m a b64 pf).option.barId.toNat = some bar ∧
              bar.byteSize = correctedSize m := by
  refine ⟨sizeCorrected m hm, fun F x sType size addr b64 pf a hsize haddr hok => ?_⟩
  exact ⟨_, createBAR_stored hsize haddr hok, rfl⟩

theorem createBAR_size_page :
    SizeCorrected 0x3000 ∧
      ∀ (F : Framework) (x : Ctx) (sType : String) (size addr b64 pf : LuaRef) (a : UInt64),
        Decodes F size 0x3000 → Decodes F addr a →
          (x.createBAR F (some sType) size addr b64 pf).2 = .ok true →
            ∃ bar, (x.createBAR F (some sType) size addr b64 pf).1.this.mBARs.lookup
                (x.requested F sType 0x3000 a b64 pf).option.barId.toNat = some bar ∧
              bar.byteSize = correctedSize 0x3000 :=
  createBAR_size 0x3000 (by decide)

/-- The BAR a successful `CreateBAR` stores, with a system loaded whose memory
    fits in the address space, has a right and safe direct pointer exactly when
    the comparison is not misled. -/
theorem createBAR_window (F : Framework) (x : Ctx) (s : SimSystem) (host : Nat)
    (hs : x.this.mpSystem = some s)
    (hfit : s.sim.memoryBase.toNat + s.sim.memorySize.toNat ≤ 2 ^ 64)
    (hlin : s.sim.Linear host) (sType : String) (size addr b64 pf : LuaRef) (m a : UInt64)
    (hm : m ≠ 0) (hsize : Decodes F size m) (haddr : Decodes F addr a)
    (hok : (x.createBAR F (some sType) size addr b64 pf).2 = .ok true) :
    ∃ bar, (x.createBAR F (some sType) size addr b64 pf).1.this.mBARs.lookup
          (x.requested F sType m a b64 pf).option.barId.toNat = some bar ∧
      bar.bindAddress = a ∧ bar.byteSize = correctedSize m ∧
      (DirectWindow s host bar ↔
        ¬ s.sim.WindowWraps a (2 ^ min (Nat.clog 2 m.toNat) 63)) := by
  refine ⟨_, createBAR_stored hsize haddr hok, rfl, rfl, ?_⟩
  have hpow := correctedSize_toNat m hm
  have hpos : 0 < (correctedSize m).toNat := by
    rw [hpow]
    exact Nat.pow_pos (by omega)
  have hle : (correctedSize m).toNat ≤ 2 ^ 63 := by
    rw [hpow]
    exact Nat.pow_le_pow_right (by omega) (Nat.min_le_right _ _)
  -- The comparison sees the corrected size, not the one asked for.
  have hptr : (x.finalBAR (x.requested F sType m a b64 pf)).pMem =
      directPointer (some s) a (correctedSize m) := by
    rw [← hs]
    rfl
  have hexact := directPointer_window s a (correctedSize m) hlin hfit hpos hle
  rw [← hptr] at hexact
  rw [← hpow, ← hexact]
  constructor
  · intro h
    exact h.pointer
  · intro h
    -- A BAR that has a pointer is in the window, so the pointer is good for all of it.
    refine ⟨h, fun hsome n _ offset hn y val io => ?_⟩
    rcases Option.isSome_iff_exists.mp hsome with ⟨p, hp⟩
    have hin := h.mp hsome
    have hget := InWindow.getMemoryPointer_eq s a (correctedSize m) hlin hin hpos
    rw [directPointer_eq_some s a (correctedSize m) (hptr ▸ hp), Option.some.injEq] at hget
    exact touchesOnly_of_inWindow hp (by rw [hget]) (by rw [hget]; rfl) hin n offset hn y val io

/-- A device whose module has the given window, with its memory at the host
    address 0x1000. -/
def Ctx.loaded (memoryBase memorySize : UInt64) : Ctx :=
  step Framework.standard Ctx.start
    (.loadSystemModule "module" (.success (ISystemSim.flat memoryBase memorySize 0x1000)))

theorem createBAR_window_loaded :
    ∃ bar, ((Ctx.loaded 0x80000000 0x100000).createBAR Framework.standard (some "memory")
          (.int64 0x3000) (.int64 0x80001000) .nil .nil).1.this.mBARs.lookup 0 = some bar ∧
      bar.bindAddress = 0x80001000 ∧ bar.byteSize = correctedSize 0x3000 ∧
      (DirectWindow { id := 0, sim := ISystemSim.flat 0x80000000 0x100000 0x1000 } 0x1000 bar ↔
        ¬ (ISystemSim.flat 0x80000000 0x100000 0x1000).WindowWraps 0x80001000
          (2 ^ min (Nat.clog 2 (0x3000 : UInt64).toNat) 63)) :=
  createBAR_window Framework.standard (Ctx.loaded 0x80000000 0x100000)
    { id := 0, sim := ISystemSim.flat 0x80000000 0x100000 0x1000 } 0x1000 rfl (by decide)
    (ISystemSim.flat_linear _ _ _) "memory" (.int64 0x3000) (.int64 0x80001000) .nil .nil 0x3000
    0x80001000 (by decide) rfl rfl (by decide)

/-- A window near the top of the address space, and a BAR that starts inside it
    and ends at the top: its end wraps to zero, and it gets a pointer. A 4-byte
    write in its last bytes leaves the memory of the module. -/
theorem directPointer_past_window :
    (ISystemSim.flat 0xFFFFFFFF00000000 0xFFFFF000 0x1000).Linear 0x1000 ∧
      ∃ bar, ((Ctx.loaded 0xFFFFFFFF00000000 0xFFFFF000).createBAR Framework.standard
          (some "memory") (.int64 0x2000) (.int64 0xFFFFFFFFFFFFE000) .nil
          .nil).1.this.mBARs.lookup 0 = some bar ∧
      ((Ctx.loaded 0xFFFFFFFF00000000 0xFFFFF000).createBAR Framework.standard
          (some "memory") (.int64 0x2000) (.int64 0xFFFFFFFFFFFFE000) .nil .nil).2 = .ok true ∧
      bar.pMem = some { sys := 0, addr := 0xFFFFF000 } ∧
      ¬ (ISystemSim.flat 0xFFFFFFFF00000000 0xFFFFF000 0x1000).InWindow bar.bindAddress.toNat
        bar.byteSize.toNat ∧
      ¬ TouchesOnly 0 0x1000 0xFFFFF000 Ctx.start
        (Ctx.start.testdriveBarWrite bar 0x1FFC 0 4 0) := by
  refine ⟨ISystemSim.flat_linear _ _ _, _, rfl, by decide, by decide, ?_, ?_⟩
  · unfold ISystemSim.InWindow
    decide
  · rintro ⟨⟨es, htrace, hes⟩, _⟩
    have hev : es = [Event.memcpy true { sys := 0, addr := 0x100000FFC } 4] := htrace.symm
    have hin := hes _ (by rw [hev]; exact List.mem_singleton_self _)
    exact absurd hin.2.2 (by decide)

end QemuTestdrive
