import QemuTestdrive.Theory.Display

/-!
# Refreshing the Display

A refresh copies the whole surface from the display's buffer, in one `memcpy` of
as many bytes as the surface has. Where the buffer begins is decided by
`EnableDisplay`, from an address nobody compares with the memory window, and how
many bytes are copied by the sizes, which nobody compares with it either. The
number of bytes is an `int` product that wraps, so a large surface can copy
fewer bytes than it has, or, when the product is negative, far more.

`refreshInside_iff` says which calls of `EnableDisplay` are safe to refresh
from. The module promises where its pointers lead only for addresses in its
window, so an address outside of it is safe by what the module happens to
answer, or because nothing is copied.

## Main definitions

* `refreshBytes`: The number of bytes a refresh copies.
* `Ctx.refresh`: A refresh on a surface of the given size.
* `RefreshInside`: Every refresh from the record stays in the system's memory.
* `RefreshFits`: The bytes at the display address lie in the window.

## Theorems

* `toNat_refreshBytes`: The number of bytes in closed form.
* `refreshBytes_eq_iff`: When it is that of the surface.
* `refresh_eq`: What a refresh does.
* `refreshInside_iff`: When every refresh is safe.
-/

namespace QemuTestdrive

/-- The bytes of a surface, as the wrapping `int` product converted to a
    `size_t`. -/
def refreshBytes (width height : Nat) : Nat :=
  let q := 4 * width * height % 2 ^ 32
  if q < 2 ^ 31 then q else q + (2 ^ 64 - 2 ^ 32)

/-- `testdrive_display_update` on a surface of the given size. -/
def Ctx.refresh (width height : Int) (x : Ctx) : Ctx :=
  x.testdriveDisplayUpdate (Int32.ofInt width) (Int32.ofInt height)

/-- Every byte an event copies is one of the `size` bytes at `host`, the memory
    of the system `sys`. -/
def Event.CopiesInside (sys host size : Nat) : Event → Prop
  | .memcpy _ p n => ∀ i < n, p.sys = sys ∧ host ≤ p.addr + i ∧ p.addr + i < host + size
  | _ => True

/-- Refreshes of the surface `device_realize` makes from the record copy bytes
    of the memory of `s` only, however many there are. -/
def RefreshInside (s : SimSystem) (host : Nat) (d : TestdriveDisplay) : Prop :=
  ∀ (w h : Int) (fmt : Option String) (stride : Nat) (p : HostPtr),
    .createDisplaysurfaceFrom w h fmt stride p ∈ displayCalls d →
      ∀ (y : Ctx), y.this.display = d → ∀ k : Nat, ∃ es,
        ((Ctx.refresh w h)^[k] y).world.trace = y.world.trace ++ es ∧
          ∀ e ∈ es, e.CopiesInside s.id host s.sim.memorySize.toNat

/-- The `n` bytes at the device address `a` lie in the window of `s`, or in its
    memory at the place the module answers for an address outside. -/
def RefreshFits (s : SimSystem) (host : Nat) (a : UInt64) (n : Nat) : Prop :=
  n = 0 ∨ s.sim.InWindow a.toNat n ∨
    ¬ s.sim.InWindow a.toNat 1 ∧
      ∃ q, s.sim.memoryPointer a = some q ∧ host ≤ q ∧ q + n ≤ host + s.sim.memorySize.toNat

theorem toNat_refreshBytes (w h : UInt16) :
    (Int32.ofInt w.toNat * Int32.ofInt h.toNat * 4).toInt64.toUInt64.toNat =
      refreshBytes w.toNat h.toNat := by
  have hw := w.toNat_lt
  have hh := h.toNat_lt
  -- Each product wraps, and the last one can be taken to wrap alone.
  have hint : (Int32.ofInt w.toNat * Int32.ofInt h.toNat * 4).toInt =
      ((w.toNat * h.toNat : Nat) * 4 : Int).bmod (2 ^ 32) := by
    rw [Int32.toInt_mul, Int32.toInt_mul, Int32.toInt_ofInt_of_le (by omega) (by omega),
      Int32.toInt_ofInt_of_le (by omega) (by omega), Int.bmod_mul_bmod, Int.natCast_mul]
    rfl
  have hnat := toNat_toUInt64 (Int32.ofInt w.toNat * Int32.ofInt h.toNat * 4).toInt64
  rw [Int32.toInt_toInt64, hint, Int.bmod_def] at hnat
  unfold refreshBytes
  rw [Nat.mul_assoc]
  generalize w.toNat * h.toNat = m at hnat ⊢
  simp only
  split at hnat
  · rw [if_pos (by omega)]
    omega
  · rw [if_neg (by omega)]
    omega

/-- The number of bytes is that of the surface exactly when the product does not
    overflow. -/
theorem refreshBytes_eq_iff (w h : UInt16) :
    refreshBytes w.toNat h.toNat = 4 * w.toNat * h.toNat ↔ 4 * w.toNat * h.toNat < 2 ^ 31 := by
  -- Two sizes of 16 bits have a product of at most 32 bits.
  have hlt : w.toNat * h.toNat < 2 ^ 16 * 2 ^ 16 := Nat.mul_lt_mul'' w.toNat_lt h.toNat_lt
  unfold refreshBytes
  rw [Nat.mul_assoc]
  generalize w.toNat * h.toNat = m at hlt ⊢
  simp only
  split
  · omega
  · omega

/-- The events of a refresh. -/
def refreshEvents (d : TestdriveDisplay) (p : HostPtr) : List Event :=
  [.memcpy false p (refreshBytes d.width.toNat d.height.toNat),
    .qemu (.consoleUpdate d.width.toNat d.height.toNat)]

section Refresh

variable {d : TestdriveDisplay} {p : HostPtr}

/-- A refresh on a surface of the recorded size copies and leaves the record as
    it is. -/
theorem refresh_eq (hp : d.pBuffer = some p) (y : Ctx) (hy : y.this.display = d) :
    (y.refresh d.width.toNat d.height.toNat).world.trace = y.world.trace ++ refreshEvents d p ∧
      (y.refresh d.width.toNat d.height.toNat).this.display = d := by
  have hw := d.width.toNat_lt
  have hh := d.height.toNat_lt
  have hwidth : (Int32.ofInt d.width.toNat).toInt = d.width.toNat :=
    Int32.toInt_ofInt_of_le (by omega) (by omega)
  have hheight : (Int32.ofInt d.height.toNat).toInt = d.height.toNat :=
    Int32.toInt_ofInt_of_le (by omega) (by omega)
  -- The surface has the size of the record, so it is not resized.
  have hsame : y.resizeDisplay (Int32.ofInt d.width.toNat) (Int32.ofInt d.height.toNat) = y := by
    unfold Ctx.resizeDisplay
    simp only [hy, hwidth, hheight, ne_eq, not_true_eq_false, or_self, if_false]
  unfold Ctx.refresh Ctx.testdriveDisplayUpdate
  simp only [hsame, hy, hp, toNat_refreshBytes, hwidth, hheight]
  refine ⟨?_, hy⟩
  simp only [Ctx.emit, World.emit, List.append_assoc]
  rfl

theorem refresh_iterate (hp : d.pBuffer = some p) (k : Nat) (y : Ctx) (hy : y.this.display = d) :
    ((Ctx.refresh d.width.toNat d.height.toNat)^[k] y).world.trace =
      y.world.trace ++ (List.replicate k (refreshEvents d p)).flatten := by
  induction k generalizing y with
  | zero => exact (List.append_nil _).symm
  | succ k ih =>
      rcases refresh_eq hp y hy with ⟨htrace, hdisplay⟩
      rw [Function.iterate_succ_apply, ih _ hdisplay, htrace, List.replicate_succ,
        List.flatten_cons, List.append_assoc]

/-- Every refresh stays inside exactly when its one copy does. -/
theorem refreshInside_iff_copy (s : SimSystem) (host : Nat) (hp : d.pBuffer = some p) :
    RefreshInside s host d ↔
      (Event.memcpy false p (refreshBytes d.width.toNat d.height.toNat)).CopiesInside s.id host
        s.sim.memorySize.toNat := by
  constructor
  · intro h
    -- One refresh is enough to see the copy.
    have hmem := (surface_mem_iff d _ _ _ _ p).mpr ⟨hp, rfl, rfl, rfl, rfl⟩
    have hd : ({ Ctx.start with this := { Ctx.start.this with display := d } } :
        Ctx).this.display = d := rfl
    rcases h _ _ _ _ p hmem _ hd 1 with ⟨es, htrace, hes⟩
    rw [refresh_iterate hp 1 _ hd] at htrace
    rw [← List.append_cancel_left htrace] at hes
    exact hes _ List.mem_cons_self
  · intro h w h' fmt stride q hmem y hy k
    rcases (surface_mem_iff d _ _ _ _ q).mp hmem with ⟨_, rfl, rfl, _, _⟩
    refine ⟨_, refresh_iterate hp k y hy, fun e he => ?_⟩
    -- Every event is one of the two of a single refresh.
    rcases List.mem_flatten.mp he with ⟨es, hes, hin⟩
    rw [List.eq_of_mem_replicate hes] at hin
    rcases List.mem_cons.mp hin with rfl | hin
    · exact h
    · rw [List.mem_singleton.mp hin]
      exact trivial

end Refresh

/-- A copy of at least one byte, through a pointer into the memory of `s`. -/
theorem copiesInside_iff {sys host size q n : Nat} (hn : 0 < n) :
    (Event.memcpy false { sys := sys, addr := q } n).CopiesInside sys host size ↔
      host ≤ q ∧ q + n ≤ host + size := by
  unfold Event.CopiesInside
  simp only [true_and]
  constructor
  · intro h
    -- The first byte and the last one give the two bounds.
    have hfirst := h 0 hn
    have hlast := h (n - 1) (by omega)
    omega
  · intro h i hi
    omega

/-- A copy from the pointer of a device address is safe exactly when its bytes
    fit there. -/
theorem copiesInside_iff_fits {s : SimSystem} {host : Nat} (hlin : s.sim.Linear host)
    {a : UInt64} {p : HostPtr} (hp : s.getMemoryPointer a = some p) (n : Nat) :
    (Event.memcpy false p n).CopiesInside s.id host s.sim.memorySize.toNat ↔
      RefreshFits s host a n := by
  rcases Option.map_eq_some_iff.mp hp with ⟨q, hq, rfl⟩
  unfold RefreshFits
  by_cases hn : n = 0
  · refine iff_of_true (fun i hi => ?_) (Or.inl hn)
    omega
  rw [copiesInside_iff (by omega)]
  by_cases hin : s.sim.InWindow a.toNat 1
  · -- The pointer is as far into the memory as the address is into the window.
    rcases hin with ⟨hlo, hhi⟩
    have hptr := hlin a hlo (by omega)
    rw [hq, Option.some.injEq] at hptr
    unfold ISystemSim.InWindow
    constructor
    · intro h
      exact Or.inr (Or.inl (by omega))
    · rintro (hzero | hfit | ⟨hout, _⟩)
      · exact absurd hzero hn
      · omega
      · exact absurd ⟨hlo, hhi⟩ hout
  · constructor
    · intro h
      exact Or.inr (Or.inr ⟨hin, q, hq, h⟩)
    · rintro (hzero | hfit | ⟨_, q', hq', hmem⟩)
      · exact absurd hzero hn
      · exact absurd ⟨hfit.1, by have := hfit.2; omega⟩ hin
      · rw [hq, Option.some.injEq] at hq'
        rw [hq']
        exact hmem

/-- After a call of `EnableDisplay` that returns true with a buffer, every
    refresh copies memory of the system only, exactly when the bytes of the
    surface at the display address fit. -/
theorem refreshInside_iff (F : Framework) (x : Ctx) (s : SimSystem) (host : Nat)
    (hs : x.this.mpSystem = some s) (hlin : s.sim.Linear host) (w h : Int32) (addr fmt : LuaRef)
    (hok : (x.enableDisplay F w h addr fmt).2 = .ok true)
    (hbuffer : (x.enableDisplay F w h addr fmt).1.this.display.pBuffer.isSome) :
    ∃ a, displayAddress F s addr = some a ∧
      (RefreshInside s host (x.enableDisplay F w h addr fmt).1.this.display ↔
        RefreshFits s host a
          (refreshBytes (w.toInt % 2 ^ 16).toNat (h.toInt % 2 ^ 16).toNat)) := by
  have hsize : w ≠ 0 ∧ h ≠ 0 := by
    by_contra hzero
    unfold Ctx.enableDisplay at hbuffer
    rw [if_neg hzero] at hbuffer
    exact Bool.false_ne_true hbuffer
  rcases enableDisplay_ok F x hsize.1 hsize.2 hok with ⟨s', a, hs', ha, hd⟩
  rw [hs, Option.some.injEq] at hs'
  subst hs'
  refine ⟨a, ha, ?_⟩
  rw [hd] at hbuffer ⊢
  rcases Option.isSome_iff_exists.mp hbuffer with ⟨p, hp⟩
  have hw : w.toUInt32.toUInt16.toNat = (w.toInt % 2 ^ 16).toNat := by
    rw [← toNat_stored, Int.toNat_natCast]
  have hh : h.toUInt32.toUInt16.toNat = (h.toInt % 2 ^ 16).toNat := by
    rw [← toNat_stored, Int.toNat_natCast]
  rw [refreshInside_iff_copy s host hp, copiesInside_iff_fits hlin hp, ← hw, ← hh]
  rfl

theorem refreshInside_vga :
    ∃ a, displayAddress Framework.standard
        { id := 0, sim := ISystemSim.flat 0x80000000 0x200000 0x1000 } .nil = some a ∧
      (RefreshInside { id := 0, sim := ISystemSim.flat 0x80000000 0x200000 0x1000 } 0x1000
          ((Ctx.loaded 0x80000000 0x200000).enableDisplay Framework.standard
            640 480 .nil .nil).1.this.display ↔
        RefreshFits { id := 0, sim := ISystemSim.flat 0x80000000 0x200000 0x1000 } 0x1000 a
          (refreshBytes ((640 : Int32).toInt % 2 ^ 16).toNat
            ((480 : Int32).toInt % 2 ^ 16).toNat)) :=
  refreshInside_iff Framework.standard (Ctx.loaded 0x80000000 0x200000)
    { id := 0, sim := ISystemSim.flat 0x80000000 0x200000 0x1000 } 0x1000 rfl
    (ISystemSim.flat_linear _ _ _) 640 480 .nil .nil rfl (by decide)

/-- A display of 640 by 480 at the base of a memory of one page. -/
theorem refresh_past_window :
    (ISystemSim.flat 0x80000000 0x1000 0x1000).Linear 0x1000 ∧
      ((Ctx.loaded 0x80000000 0x1000).enableDisplay Framework.standard 640 480 .nil .nil).2 =
        .ok true ∧
      ((Ctx.loaded 0x80000000 0x1000).enableDisplay Framework.standard
        640 480 .nil .nil).1.this.display.pBuffer = some { sys := 0, addr := 0x1000 } ∧
      ¬ RefreshInside { id := 0, sim := ISystemSim.flat 0x80000000 0x1000 0x1000 } 0x1000
        ((Ctx.loaded 0x80000000 0x1000).enableDisplay Framework.standard
          640 480 .nil .nil).1.this.display := by
  refine ⟨ISystemSim.flat_linear _ _ _, rfl, by decide, fun h => ?_⟩
  have hcopy := (refreshInside_iff_copy { id := 0, sim := ISystemSim.flat 0x80000000 0x1000 0x1000 }
    0x1000 (p := { sys := 0, addr := 0x1000 }) (by decide)).mp h
  exact absurd (hcopy 0x1000 (by decide)).2.2 (by decide)

end QemuTestdrive
