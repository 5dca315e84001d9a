import QemuTestdrive.Core.Screen
import QemuTestdrive.Theory.Display
import QemuTestdrive.Theory.Neighbours

/-!
# What the Screen Shows

The way of a picture from the guest to the screen. The guest writes pixels through
any of its BARs, which may overlap, QEMU refreshes the screen now and then, and may
change the surface in between. `screen_shows_bus` says that after a refresh the
screen shows the bytes of the flat bus from the display address on, as they are
after all the writes so far, and that refreshing never gets in the guest's way.

The surface must fit: its bytes lie in the memory window from the display address
on, and their number is an `int`. Neither `EnableDisplay` nor a refresh looks at
that. The memory of the system is linear, every BAR that is accessed belongs to that
system, as one that was created before a module was loaded again would not, and the
module draws nothing itself: neither an `io_slave` nor a refresh writes memory.

## Main definitions

* `Surface.FitsAt`: The surface fits at the display address.
* `Screen`: The guest, and the surface it looks at.
* `ScreenOp`: What happens to them.
* `ScreenKept`: The relation between a screen and the flat bus.

## Theorems

* `byteCount_eq`: The number of bytes of a surface that fits.
* `refreshSurface_spec`: One refresh.
* `screenKept_step`: Any operation.
* `screen_shows_bus`: Any run.
-/

namespace QemuTestdrive

/-- The number of bytes of a surface. -/
def Surface.size (surface : Surface) : Nat :=
  4 * (surface.width.toInt * surface.height.toInt).toNat

/-- The surface has a size, and its bytes lie in the window of `s` from `a` on. One
    that shares memory shares that of the buffer. -/
structure Surface.FitsAt (s : SimSystem) (a : UInt64) (surface : Surface) : Prop where
  width : 0 ≤ surface.width.toInt
  height : 0 ≤ surface.height.toInt
  int : surface.size < 2 ^ 31
  window : s.sim.InWindow a.toNat surface.size
  buffer : ∀ p, surface.data = .shared p → s.getMemoryPointer a = some p

/-- The guest, and the surface on the screen. -/
structure Screen where
  guest : Guest
  surface : Surface

/-- The guest accesses a BAR, the screen is refreshed, or QEMU shows another
    surface. -/
inductive ScreenOp where
  | access (a : GuestAccess)
  | update
  | setSurface (surface : Surface)

/-- The effect of an operation. -/
def Screen.step (z : Screen) : ScreenOp → Screen
  | .access a => { z with guest := z.guest.step a }
  | .update =>
      let r := z.guest.ctx.refreshSurface z.surface
      { guest := { z.guest with ctx := r.1 }, surface := r.2 }
  | .setSurface surface => { z with surface := surface }

/-- What the screen shows. -/
def Screen.pixel (z : Screen) (i : Nat) : UInt8 :=
  z.surface.pixel z.guest.ctx.world.mem i

/-- What the operation is on the bus. -/
def ScreenOp.busOps : ScreenOp → List BusOp
  | .access a => [a.busOp]
  | _ => []

/-- An access inside a BAR, and a surface that fits. -/
def ScreenOp.Valid (s : SimSystem) (a : UInt64) : ScreenOp → Prop
  | .access op => op.Valid s
  | .update => True
  | .setSurface surface => surface.FitsAt s a

/-- The bytes of a surface that fits are all copied. -/
theorem byteCount_eq {s : SimSystem} {a : UInt64} {surface : Surface}
    (h : surface.FitsAt s a) : surface.byteCount = surface.size := by
  have hwidth := h.width
  have hheight := h.height
  have hint := h.int
  unfold Surface.size at hint ⊢
  unfold Surface.byteCount
  have hpos : 0 ≤ surface.width.toInt * surface.height.toInt := Int.mul_nonneg hwidth hheight
  have hprod : (surface.width * surface.height * 4).toInt =
      (surface.width.toInt * surface.height.toInt * 4).bmod (2 ^ 32) := by
    rw [Int32.toInt_mul, Int32.toInt_mul, Int.bmod_mul_bmod]
    rfl
  have hnat := toNat_toUInt64 (surface.width * surface.height * 4).toInt64
  rw [Int32.toInt_toInt64, hprod] at hnat
  generalize surface.width.toInt * surface.height.toInt = q at hint hpos hnat ⊢
  have hbmod : (q * 4).bmod (2 ^ 32) = q * 4 := by
    rw [Int.bmod_def]
    split
    · omega
    · omega
  rw [hbmod] at hnat
  omega

/-- An access changes nothing of the object. -/
theorem access_this (x : Ctx) (a : GuestAccess) : (x.access a).this = x.this := by
  have hmemIO : ∀ bWrite addr val io, (x.memIO bWrite addr val io).1.this = x.this := by
    intro bWrite addr val io
    unfold Ctx.memIO
    split
    · rfl
    · rfl
  cases a with
  | read bar offset n io =>
      unfold Ctx.access Ctx.testdriveBarRead
      simp only
      split
      · rfl
      · split
        · exact hmemIO _ _ _ _
        · rfl
  | write bar offset val n io =>
      unfold Ctx.access Ctx.testdriveBarWrite
      simp only
      split
      · rfl
      · split
        · exact hmemIO _ _ _ _
        · rfl

theorem displayUpdate_pBuffer (width height : Int32) (x : Ctx) :
    (x.testdriveDisplayUpdate width height).this.display.pBuffer = x.this.display.pBuffer := by
  unfold Ctx.testdriveDisplayUpdate
  simp only
  split
  · exact Ctx.resizeDisplay_pBuffer width height x
  · exact Ctx.resizeDisplay_pBuffer width height x

section Refresh

variable {s : SimSystem} {a : UInt64} {p : HostPtr} {x : Ctx} {surface : Surface}

/-- One refresh leaves the memory, the ports, the system and the buffer alone. The
    surface shows the bytes from the buffer on. -/
theorem refreshSurface_spec (hp : s.getMemoryPointer a = some p)
    (hbuffer : x.this.display.pBuffer = some p) (hfits : surface.FitsAt s a) :
    Unreached x.world (x.refreshSurface surface).1.world ∧
      (x.refreshSurface surface).1.this.mpSystem = x.this.mpSystem ∧
      (x.refreshSurface surface).1.this.display.pBuffer = some p ∧
      (x.refreshSurface surface).2.FitsAt s a ∧
      ∀ i < surface.size,
        (x.refreshSurface surface).2.pixel (x.refreshSurface surface).1.world.mem i =
          x.world.mem (p.addr + i) := by
  have hworld := unreached_displayUpdate x surface.width surface.height
  have hsystem := displayUpdate_mpSystem x surface.width surface.height
  have hpBuffer := (displayUpdate_pBuffer surface.width surface.height x).trans hbuffer
  have hcount := byteCount_eq hfits
  unfold Ctx.refreshSurface
  simp only [hpBuffer]
  rcases hdata : surface.data with q | pixels
  · -- The surface shares the buffer, which is copied onto itself.
    have hq : q = p := Option.some.inj ((hfits.buffer q hdata).symm.trans hp)
    simp only [hq, ByteMemory.copy_self]
    refine ⟨hworld, hsystem, hpBuffer, hfits, fun i _ => ?_⟩
    unfold Surface.pixel
    simp only [hdata, hq, hworld.mem]
  · refine ⟨hworld, hsystem, hpBuffer, ⟨hfits.width, hfits.height, hfits.int, hfits.window, ?_⟩,
      fun i hi => ?_⟩
    · exact fun r hr => nomatch hr
    · have hcopy := ByteMemory.copy_inside
        (x.testdriveDisplayUpdate surface.width surface.height).world.mem p.addr pixels 0
        surface.byteCount i (hcount.symm ▸ hi)
      rw [Nat.zero_add, hworld.mem] at hcopy
      unfold Surface.pixel
      simp only [hworld.mem]
      exact hcopy

end Refresh

/-- The screen is at a point where the flat bus is at `b`: the guest is, the display's
    buffer is where the display address leads, and the surface fits there. -/
structure ScreenKept (s : SimSystem) (host : Nat) (x : Ctx) (a : UInt64) (p : HostPtr)
    (z : Screen) (b : Bus) : Prop where
  refines : Refines s host x z.guest b
  buffer : z.guest.ctx.this.display.pBuffer = some p
  fits : z.surface.FitsAt s a

section Screen

variable {s : SimSystem} {host : Nat} {x : Ctx} {a : UInt64} {p : HostPtr} {z : Screen} {b : Bus}

/-- Any operation keeps the relation. -/
theorem screenKept_step (hlin : s.sim.Linear host) (hp : s.getMemoryPointer a = some p)
    (h : ScreenKept s host x a p z b) (op : ScreenOp) (hop : op.Valid s a) :
    ScreenKept s host x a p (z.step op) (Runs.run Bus.step b op.busOps) := by
  cases op with
  | access acc =>
      refine ⟨refines_access hlin h.refines acc hop, ?_, h.fits⟩
      rw [Screen.step, guest_step_eq, access_this]
      exact h.buffer
  | update =>
      rcases refreshSurface_spec hp h.buffer h.fits with ⟨hworld, hsystem, hbuffer, hfits, _⟩
      refine ⟨⟨hsystem.trans h.refines.live, ?_, fun i hi => ?_, h.refines.seen, ?_⟩, hbuffer,
        hfits⟩
      · rw [Screen.step]
        simp only [hworld.mem]
        exact h.refines.memory
      · rw [Screen.step]
        simp only [hworld.mem]
        exact h.refines.outside i hi
      · exact hworld.ioSlaves.trans h.refines.calls
  | setSurface surface => exact ⟨h.refines, h.buffer, hop⟩

/-- After a refresh the screen shows the bus from the display address on. -/
theorem pixel_update (hlin : s.sim.Linear host) (hp : s.getMemoryPointer a = some p)
    (h : ScreenKept s host x a p z b) (i : Nat) (hi : i < z.surface.size) :
    (z.step .update).pixel i = b.mem (a.toNat + i) := by
  rcases refreshSurface_spec hp h.buffer h.fits with ⟨_, _, _, _, hpixel⟩
  rcases h.fits.window with ⟨hlo, hhi⟩
  -- The buffer is as far into the memory as the address is into the window.
  have hptr := hlin a hlo (by omega)
  rw [SimSystem.getMemoryPointer, hptr, Option.map_some, Option.some.injEq] at hp
  have hview := h.refines.memory (a.toNat - s.sim.memoryBase.toNat + i) (by omega)
  have hshown : (z.step .update).pixel i = z.guest.ctx.world.mem (p.addr + i) := hpixel i hi
  rw [hshown, ← hp]
  rw [show host + (a.toNat - s.sim.memoryBase.toNat + i) =
    host + (a.toNat - s.sim.memoryBase.toNat) + i by omega] at hview
  rw [hview, show s.sim.memoryBase.toNat + (a.toNat - s.sim.memoryBase.toNat + i) = a.toNat + i
    by omega]

end Screen

/-- With a live system whose memory is linear and whose module does not write it, and
    a display buffer where the address `a` leads: after any accesses of the guest to
    BARs of that system, refreshes and changes of the surface, the guest is still on one
    flat bus of its own accesses, and one more refresh shows the bytes of that bus from
    `a` on, all over the surface. -/
theorem screen_shows_bus (s : SimSystem) (host : Nat) (x : Ctx) (a : UInt64) (p : HostPtr)
    (hs : x.this.mpSystem = some s) (hlin : s.sim.Linear host)
    (hp : s.getMemoryPointer a = some p) (hbuffer : x.this.display.pBuffer = some p)
    (surface : Surface) (hfits : surface.FitsAt s a) (ops : List ScreenOp)
    (hvalid : ∀ op ∈ ops, op.Valid s a) :
    let z := Runs.run Screen.step { guest := { ctx := x, seen := [] }, surface := surface } ops
    let b := Runs.run Bus.step (Bus.of s host x) (ops.flatMap ScreenOp.busOps)
    Refines s host x (z.step .update).guest b ∧
      ∀ i < z.surface.size, (z.step .update).pixel i = b.mem (a.toNat + i) := by
  have hkept := Runs.run_simulates_flatMap Screen.step Bus.step ScreenOp.busOps
    (R := ScreenKept s host x a p) (fun z b op hop h => screenKept_step hlin hp h op hop) ops
    { guest := { ctx := x, seen := [] }, surface := surface } (Bus.of s host x)
    (Runs.each_of_forall Screen.step _ hvalid) ⟨refines_start s host x hs, hbuffer, hfits⟩
  exact ⟨(screenKept_step hlin hp hkept .update trivial).refines, pixel_update hlin hp hkept⟩

/-- A guest with a display of two by two pixels draws before and after QEMU changes
    the surface. -/
def drawingOps : List ScreenOp :=
  [.access (.write (directBAR 0x80000000 0x1000) 4 0xFFFFFF 4 0), .update,
    .setSurface { width := 2, height := 2, data := .own fun _ => 0 },
    .access (.write (directBAR 0x80000000 0x1000) 8 0xFF 2 0)]

theorem screen_shows_bus_drawing :
    let x := ((Ctx.loaded 0x80000000 0x1000).enableDisplay Framework.standard 2 2 .nil .nil).1
    let start : Surface := { width := 2, height := 2, data := .shared { sys := 0, addr := 0x1000 } }
    let z := Runs.run Screen.step { guest := { ctx := x, seen := [] }, surface := start } drawingOps
    let b := Runs.run Bus.step (Bus.of firstSystem 0x1000 x)
      (drawingOps.flatMap ScreenOp.busOps)
    Refines firstSystem 0x1000 x (z.step .update).guest b ∧
      ∀ i < z.surface.size, (z.step .update).pixel i = b.mem (0x80000000 + i) := by
  have hfits : ∀ data : SurfaceData,
      (∀ q, data = .shared q → firstSystem.getMemoryPointer 0x80000000 = some q) →
      ({ width := 2, height := 2, data := data } : Surface).FitsAt firstSystem 0x80000000 := by
    intro data hdata
    have hsize : ∀ n, n = 16 → firstSystem.sim.InWindow (0x80000000 : UInt64).toNat n := by
      rintro n rfl
      unfold ISystemSim.InWindow
      decide
    have hint : (2 : Int32).toInt = 2 := by decide
    refine ⟨?_, ?_, ?_, hsize _ ?_, hdata⟩ <;> simp [Surface.size, hint]
  have hbar : (directBAR 0x80000000 0x1000).BoundTo firstSystem :=
    Or.inr (by unfold ISystemSim.InWindow; decide)
  refine screen_shows_bus firstSystem 0x1000 _ 0x80000000 { sys := 0, addr := 0x1000 } rfl
    (ISystemSim.flat_linear _ _ _) (by decide) (by decide) _ (hfits _ fun q hq => ?_) drawingOps ?_
  · rw [← SurfaceData.shared.inj hq]
    decide
  · simp only [drawingOps, List.forall_mem_cons]
    exact ⟨⟨hbar, by decide, by decide⟩, trivial, hfits _ (fun q hq => nomatch hq),
      ⟨hbar, by decide, by decide⟩, fun _ h => absurd h List.not_mem_nil⟩

end QemuTestdrive
