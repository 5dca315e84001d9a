import QemuTestdrive.Core.Access

/-!
# The Picture on the Screen

Where a refresh copies to. QEMU shows a surface, and `surface_data` is the memory of
its pixels. The surface `device_realize` makes shares the display's buffer, so a
refresh copies the buffer onto itself. When the console is resized QEMU puts a
surface of its own in its place, with memory of its own, and a refresh fills it.

## Main definitions

* `Surface`: A surface of QEMU.
* `Surface.pixel`: What it shows.
* `Ctx.refreshSurface`: `testdrive_display_update` on a surface.
-/

namespace QemuTestdrive

/-- The pixels of a surface: the memory at a host address, or QEMU's own. -/
inductive SurfaceData where
  | shared (p : HostPtr)
  | own (pixels : Nat → UInt8)

/-- A surface. -/
structure Surface where
  width : Int32
  height : Int32
  data : SurfaceData

/-- The byte `i` of what a surface shows, over the host memory `mem`. -/
def Surface.pixel (surface : Surface) (mem : Nat → UInt8) (i : Nat) : UInt8 :=
  match surface.data with
  | .shared p => mem (p.addr + i)
  | .own pixels => pixels i

/-- The number of bytes a refresh copies: an `int` product converted to a
    `size_t`. -/
def Surface.byteCount (surface : Surface) : Nat :=
  (surface.width * surface.height * 4).toInt64.toUInt64.toNat

/-- `testdrive_display_update`, with the bytes it copies. -/
def Ctx.refreshSurface (surface : Surface) (x : Ctx) : Ctx × Surface :=
  let y := x.testdriveDisplayUpdate surface.width surface.height
  match y.this.display.pBuffer with
  | none => (y, surface)
  | some src =>
      match surface.data with
      | .shared dst =>
          ({ y with world := { y.world with
            mem := ByteMemory.copy y.world.mem src.addr y.world.mem dst.addr surface.byteCount } },
            surface)
      | .own pixels =>
          (y, { surface with
            data := .own (ByteMemory.copy y.world.mem src.addr pixels 0 surface.byteCount) })

end QemuTestdrive
