import QemuTestdrive.Theory.Mechanism

/-!
# Exit Notifiers and Device Objects

`device_realize` registers the exit notifier of a device before it does anything
that can fail, and nothing takes a notifier off the list again. So the notifier
outlives the device when the device is unplugged, and it is there for a device
that never came to be when `msix_init` fails. In the second case the `TestDrive`
object is left behind as well, since `device_exit` is not called. A realize that does
not get past its scripts registers nothing, and ends the process.

Both are followed over the list of notifiers, the table of devices and the table
of objects. `Wired` is what holds of them in every state the process can reach,
and makes the conditions exact: a realized device has its notifier registered,
and its object is an older one than the next.

## Main definitions

* `NotifiersLive`: Every registered notifier is that of a realized device.
* `ObjectsOwned`: Every object is that of a realized device.
* `RealizeSucceeds`: A realize does not fail.
* `KeepsNotifiers`: A realize does not fail, and no device is unplugged.
* `Wired`: The invariant of the process.

## Theorems

* `emulatorExit_isSome_iff`: When the callbacks of the exit are safe.
* `wired_step`: Every operation keeps the invariant.
* `objectsOwned_step`, `registered_step`: What one operation does.
* `notifiersLive_run`: What a run does.
-/

namespace QemuTestdrive

/-- Every registered exit notifier is that of a realized device, and the exit of
    the emulator runs none on another. -/
structure NotifiersLive (p : Process) : Prop where
  registered : ∀ d ∈ p.exitNotifiers, (p.devices d).isSome
  callbacks : p.emulatorExit.isSome

/-- Every `TestDrive` object that has not been destroyed is that of a realized
    device. -/
def ObjectsOwned (p : Process) : Prop :=
  ∀ t, (p.drives t).isSome → ∃ d dev, p.devices d = some dev ∧ dev.pTestDrive = t

/-- A realize that gets past its scripts and selects MSI-X can set it up. -/
def RealizeSucceeds (F : Framework) (p : Process) : DeviceOp → Prop
  | .realize d script initOk =>
      p.Starts F d script → ∀ n iBar, selected F p d script = .msix n iBar → initOk = true
  | .exit _ => True

/-- No realize fails, and no realized device is unplugged. -/
structure KeepsNotifiers (F : Framework) (p : Process) (op : DeviceOp) : Prop where
  succeeds : RealizeSucceeds F p op
  stays : ∀ d, op = .exit d → p.ended = none → p.devices d = none

/-- A realized device has its notifier registered, and an object made before the
    next one. -/
structure Wired (p : Process) : Prop where
  notifier : ∀ d dev, p.devices d = some dev → d ∈ p.exitNotifiers
  object : ∀ d dev, p.devices d = some dev → dev.pTestDrive < p.objects

namespace Process

theorem shutdownCallback_spec (p : Process) (d : Nat) :
    ((p.shutdownCallback d).isSome ↔ (p.devices d).isSome) ∧
      ∀ q, p.shutdownCallback d = some q → q.devices = p.devices := by
  unfold shutdownCallback
  rcases p.devices d with _ | dev
  · exact ⟨Iff.rfl, fun q hq => absurd hq (Option.some_ne_none q).symm⟩
  · simp only
    rcases p.drives dev.pTestDrive with _ | t
    · exact ⟨iff_of_true rfl rfl, fun q hq => by rw [← Option.some.inj hq]⟩
    · exact ⟨iff_of_true rfl rfl, fun q hq => by rw [← Option.some.inj hq]; rfl⟩

/-- The callbacks are safe exactly when every registered notifier is that of a
    realized device, since none of them changes which devices are. -/
theorem foldlM_shutdownCallback (ds : List Nat) (p : Process) :
    (ds.foldlM shutdownCallback p).isSome ↔ ∀ d ∈ ds, (p.devices d).isSome := by
  induction ds generalizing p with
  | nil => exact iff_of_true rfl fun d hd => absurd hd List.not_mem_nil
  | cons d ds ih =>
      rcases p.shutdownCallback_spec d with ⟨hsome, hdevices⟩
      rw [List.foldlM_cons, List.forall_mem_cons, ← hsome]
      rcases hq : p.shutdownCallback d with _ | q
      · exact iff_of_false Bool.false_ne_true fun h => Bool.false_ne_true h.1
      · rw [and_iff_right Option.isSome_some, ← hdevices q hq]
        exact ih q

theorem emulatorExit_isSome_iff (p : Process) :
    p.emulatorExit.isSome ↔ ∀ d ∈ p.exitNotifiers, (p.devices d).isSome :=
  foldlM_shutdownCallback p.exitNotifiers p

end Process

theorem notifiersLive_iff (p : Process) :
    NotifiersLive p ↔ ∀ d ∈ p.exitNotifiers, (p.devices d).isSome :=
  ⟨fun h => h.registered, fun h => ⟨h, p.emulatorExit_isSome_iff.mpr h⟩⟩

section Step

variable (F : Framework) (p : Process)

/-- The objects there are once the scripts of a new device have been run. -/
theorem constructed_drives (d : Nat) (script : Option SetupScript) (t : Nat) :
    ((p.constructed F d script).drives t).isSome ↔ t = p.objects ∨ (p.drives t).isSome := by
  unfold Process.constructed Process.setDrive
  simp only
  by_cases ht : t = p.objects
  · rw [if_pos ht]
    exact iff_of_true rfl (Or.inl ht)
  · rw [if_neg ht]
    exact ⟨Or.inr, fun h => h.resolve_left ht⟩

/-- What a realize does to the notifiers and the objects, whether `msix_init` fails or
    not. -/
theorem realized_objects (d : Nat) (script : Option SetupScript) (initOk : Bool) :
    ((p.created F d script).setup d p.objects initOk).exitNotifiers = p.exitNotifiers ++ [d] ∧
      ((p.created F d script).setup d p.objects initOk).objects = p.objects + 1 ∧
      ∀ t, (((p.created F d script).setup d p.objects initOk).drives t).isSome ↔
        t = p.objects ∨ (p.drives t).isSome := by
  rcases Process.setup_spec (p.created F d script) d p.objects initOk with
    ⟨_, hobjects, hdrives, hnotifiers⟩
  refine ⟨hnotifiers, hobjects, fun t => ?_⟩
  rw [hdrives]
  exact constructed_drives F p d script t

/-- What an exit does to them: the object of the device is destroyed, and its
    notifier stays. -/
theorem deviceExit_objects (d : Nat) (dev : Device) :
    (p.deviceExit d dev).exitNotifiers = p.exitNotifiers ∧
      ∀ t, (p.deviceExit d dev).drives t = if t = dev.pTestDrive then none else p.drives t := by
  unfold Process.deviceExit
  simp only [Process.qemu_eq]
  rcases hdrive : p.drives dev.pTestDrive with _ | x
  · refine ⟨rfl, fun t => ?_⟩
    by_cases ht : t = dev.pTestDrive
    · rw [if_pos ht, ht]
      exact hdrive
    · rw [if_neg ht]
      rfl
  · exact ⟨rfl, fun t => rfl⟩

theorem outcome_isSome_iff (m : Mechanism) (initOk : Bool) :
    (m.outcome initOk).isSome ↔ ∀ n iBar, m = .msix n iBar → initOk = true := by
  cases m with
  | none => exact iff_of_true rfl fun n iBar h => Mechanism.noConfusion h
  | msi k => exact iff_of_true rfl fun n iBar h => Mechanism.noConfusion h
  | msix k jBar =>
      cases initOk with
      | true => exact iff_of_true rfl fun n iBar _ => rfl
      | false =>
          exact iff_of_false Bool.false_ne_true fun h => Bool.false_ne_true (h k jBar rfl)

variable {F} {p}

/-- The device table after a realize: a new device if it succeeds, and no change
    otherwise. -/
theorem realized_devices {d : Nat} {script : Option SetupScript} (initOk : Bool)
    (hstarts : p.Starts F d script) :
    (RealizeSucceeds F p (.realize d script initOk) ∧
        ∃ m, ∀ e, ((p.created F d script).setup d p.objects initOk).devices e =
          if e = d then some { pTestDrive := p.objects, mechanism := m } else p.devices e) ∨
      (¬ RealizeSucceeds F p (.realize d script initOk) ∧
        ((p.created F d script).setup d p.objects initOk).devices = p.devices) := by
  have hspec := (realized_spec hstarts initOk).1
  have hiff := outcome_isSome_iff (selected F p d script) initOk
  rcases hout : (selected F p d script).outcome initOk with _ | m
  · right
    -- A realize that fails leaves no device, and there was none before.
    rw [hout] at hspec hiff
    refine ⟨fun h => Bool.false_ne_true (hiff.mpr (h hstarts)), funext fun e => ?_⟩
    rw [hspec e]
    by_cases he : e = d
    · rw [if_pos he, he, hstarts.unrealized]
      rfl
    · rw [if_neg he]
  · left
    rw [hout] at hspec hiff
    exact ⟨fun _ => hiff.mp rfl, m, hspec⟩

/-- A realize keeps the invariant. -/
theorem wired_realized {d : Nat} {script : Option SetupScript} (initOk : Bool)
    (hstarts : p.Starts F d script) (h : Wired p) :
    Wired ((p.created F d script).setup d p.objects initOk) := by
  rcases realized_objects F p d script initOk with ⟨hnotifiers, hobjects, _⟩
  have hdevices := realized_devices initOk hstarts
  generalize (p.created F d script).setup d p.objects initOk = q at *
  -- The notifier is registered and the object counted, whatever comes after.
  have hold : ∀ e dev, p.devices e = some dev →
      e ∈ q.exitNotifiers ∧ dev.pTestDrive < q.objects := by
    intro e dev he
    rw [hnotifiers, hobjects]
    exact ⟨List.mem_append_left _ (h.notifier e dev he), Nat.lt_succ_of_lt (h.object e dev he)⟩
  have hall : ∀ e dev, q.devices e = some dev →
      e ∈ q.exitNotifiers ∧ dev.pTestDrive < q.objects := by
    intro e dev he
    rcases hdevices with ⟨_, m, hdevices⟩ | ⟨_, hdevices⟩
    · rw [hdevices e] at he
      by_cases hed : e = d
      · rw [if_pos hed] at he
        rw [hnotifiers, hobjects, ← Option.some.inj he, hed]
        exact ⟨List.mem_append_right _ List.mem_cons_self, Nat.lt_succ_self _⟩
      · rw [if_neg hed] at he
        exact hold e dev he
    · rw [hdevices] at he
      exact hold e dev he
  exact ⟨fun e dev he => (hall e dev he).1, fun e dev he => (hall e dev he).2⟩

variable (F) (p)

/-- Every operation keeps the invariant. -/
theorem wired_step (op : DeviceOp) (h : Wired p) : Wired (deviceStep F p op) := by
  have heffect := deviceStep_effect F p op
  generalize deviceStep F p op = q at heffect ⊢
  cases heffect with
  | realized initOk hstarts => exact wired_realized initOk hstarts h
  | halted _ _ f =>
      exact ⟨h.notifier, fun e dev he => Nat.lt_succ_of_lt (h.object e dev he)⟩
  | unrealized _ => exact h
  | @exited d dev _ _ =>
      rcases Process.deviceExit_spec p d dev with ⟨_, _, _, hobjects⟩
      refine ⟨fun e dev' he => ?_, fun e dev' he => ?_⟩
      · rw [(deviceExit_objects p d dev).1]
        exact h.notifier e dev' (left_by_exit he).2
      · rw [hobjects]
        exact h.object e dev' (left_by_exit he).2
  | unexited _ => exact h

/-- While the process runs, an operation leaves no object behind exactly when it is no
    failing realize. -/
theorem objectsOwned_step (op : DeviceOp) (hw : Wired p) (h : p.ended = none → ObjectsOwned p) :
    ((deviceStep F p op).ended = none → ObjectsOwned (deviceStep F p op)) ↔
      RealizeSucceeds F p op := by
  have heffect := deviceStep_effect F p op
  generalize deviceStep F p op = q at heffect ⊢
  cases heffect with
  | @realized d script initOk hstarts =>
      have hended := (Process.setup_ended (p.created F d script) d p.objects initOk).trans
        hstarts.running
      rw [forall_prop_of_true hended]
      rcases realized_objects F p d script initOk with ⟨_, _, hdrives⟩
      rcases realized_devices initOk hstarts with ⟨hok, m, hdevices⟩ | ⟨hbad, hdevices⟩
      · refine iff_of_true (fun t ht => ?_) hok
        rcases (hdrives t).mp ht with rfl | hold
        · exact ⟨d, _, (hdevices d).trans (if_pos rfl), rfl⟩
        · rcases h hstarts.running t hold with ⟨e, dev, he, hdev⟩
          have hne := ne_of_realized hstarts.unrealized he
          exact ⟨e, dev, (hdevices e).trans ((if_neg hne).trans he), hdev⟩
      · refine iff_of_false (fun hq => ?_) hbad
        -- The new object is there, and no device has one that new.
        rcases hq p.objects ((hdrives p.objects).mpr (Or.inl rfl)) with ⟨e, dev, he, hdev⟩
        rw [hdevices] at he
        have hlt := hw.object e dev he
        omega
  | halted _ hstarts f =>
      exact iff_of_true (fun hended => absurd hended (Option.some_ne_none f))
        fun hs => absurd hs hstarts
  | unrealized hstarts => exact iff_of_true h fun hs => absurd hs hstarts
  | @exited d dev hrunning hd =>
      refine iff_of_true (fun _ t ht => ?_) trivial
      rw [(deviceExit_objects p d dev).2 t] at ht
      by_cases heq : t = dev.pTestDrive
      · rw [if_pos heq] at ht
        exact absurd ht Bool.false_ne_true
      · rw [if_neg heq] at ht
        rcases h hrunning t ht with ⟨e, dev', he, hdev⟩
        -- The owner is another device, since the unplugged one owned another object.
        have hne : e ≠ d := fun hed => by
          rw [hed, hd] at he
          exact heq (by rw [← hdev, Option.some.inj he])
        have hstays := (Process.deviceExit_spec p d dev).1 e
        exact ⟨e, dev', hstays.trans ((if_neg hne).trans he), hdev⟩
  | unexited _ => exact iff_of_true h trivial

/-- An operation leaves no notifier behind exactly when it is neither a failing
    realize nor an unplug. -/
theorem registered_step (op : DeviceOp) (hw : Wired p)
    (h : ∀ d ∈ p.exitNotifiers, (p.devices d).isSome) :
    (∀ d ∈ (deviceStep F p op).exitNotifiers, ((deviceStep F p op).devices d).isSome) ↔
      KeepsNotifiers F p op := by
  have hrealize : ∀ d script initOk, KeepsNotifiers F p (.realize d script initOk) ↔
      RealizeSucceeds F p (.realize d script initOk) := fun d script initOk =>
    ⟨fun hk => hk.succeeds, fun hs => ⟨hs, fun e he => DeviceOp.noConfusion he⟩⟩
  have heffect := deviceStep_effect F p op
  generalize deviceStep F p op = q at heffect ⊢
  cases heffect with
  | @realized d script initOk hstarts =>
      rw [hrealize]
      rcases realized_objects F p d script initOk with ⟨hnotifiers, _, _⟩
      rw [hnotifiers]
      rcases realized_devices initOk hstarts with ⟨hok, m, hdevices⟩ | ⟨hbad, hdevices⟩
      · refine iff_of_true (fun e he => ?_) hok
        rw [hdevices e]
        by_cases hed : e = d
        · rw [if_pos hed]
          rfl
        · rw [if_neg hed]
          rcases List.mem_append.mp he with hmem | hmem
          · exact h e hmem
          · exact absurd (List.mem_singleton.mp hmem) hed
      · refine iff_of_false (fun hq => ?_) hbad
        have hnew := hq d (List.mem_append_right _ List.mem_cons_self)
        rw [hdevices, hstarts.unrealized] at hnew
        exact Bool.false_ne_true hnew
  | halted _ hstarts f =>
      -- Neither the list nor the devices have changed.
      rw [hrealize]
      exact iff_of_true h fun hs => absurd hs hstarts
  | unrealized hstarts =>
      rw [hrealize]
      exact iff_of_true h fun hs => absurd hs hstarts
  | @exited d dev hrunning hd =>
      refine iff_of_false (fun hq => ?_) fun hk => ?_
      · -- The notifier of the unplugged device was registered, and is still there.
        rw [(deviceExit_objects p d dev).1] at hq
        have hgone := hq d (hw.notifier d dev hd)
        rw [(Process.deviceExit_spec p d dev).1 d, if_pos rfl] at hgone
        exact Bool.false_ne_true hgone
      · exact Option.some_ne_none dev (hd.symm.trans (hk.stays d rfl hrunning))
  | @unexited d hd =>
      refine iff_of_true h ⟨trivial, fun e he => ?_⟩
      rw [← DeviceOp.exit.inj he]
      exact hd

end Step

theorem wired_start : Wired Process.start :=
  ⟨fun _ dev h => absurd h (Option.some_ne_none dev).symm,
    fun _ dev h => absurd h (Option.some_ne_none dev).symm⟩

/-- From the start of the process, the notifiers and the objects are those of
    realized devices in every state reached exactly when no realize fails and no
    device is unplugged. For the objects alone, only the realizes matter. The objects
    are followed while the process runs, and the notifiers to its end. -/
theorem notifiersLive_run (F : Framework) (ops : List DeviceOp) :
    (Runs.Always (deviceStep F) (fun p => NotifiersLive p ∧ (p.ended = none → ObjectsOwned p))
          Process.start ops ↔
        Runs.Each (deviceStep F) (KeepsNotifiers F) Process.start ops) ∧
      (Runs.Always (deviceStep F) (fun p => p.ended = none → ObjectsOwned p) Process.start ops ↔
        Runs.Each (deviceStep F) (RealizeSucceeds F) Process.start ops) := by
  have howned : ObjectsOwned Process.start := fun t ht => absurd ht Bool.false_ne_true
  have hlive : NotifiersLive Process.start :=
    (notifiersLive_iff Process.start).mpr fun d hd => absurd hd List.not_mem_nil
  constructor
  · refine Runs.always_iff_each (deviceStep F) (I := Wired) (wired_step F) (fun p op hw h => ?_)
      ops Process.start wired_start ⟨hlive, fun _ => howned⟩
    rw [notifiersLive_iff, registered_step F p op hw h.1.registered,
      objectsOwned_step F p op hw h.2]
    exact and_iff_left_of_imp KeepsNotifiers.succeeds
  · exact Runs.always_iff_each (deviceStep F) (I := Wired) (wired_step F)
      (fun p op hw h => objectsOwned_step F p op hw h) ops Process.start wired_start fun _ => howned

/-- A device that is unplugged, and one whose `msix_init` fails. The first has no setup
    script configured. -/
theorem notifiers_dangling :
    (¬ NotifiersLive (Runs.run (deviceStep Framework.standard) Process.start
        [.realize 0 none true, .exit 0])) ∧
      (¬ NotifiersLive (Runs.run (deviceStep Framework.standard) Process.start
        [.realize 0 (loadedScript (msixScript 16)) false])) ∧
      (Runs.run (deviceStep Framework.standard) Process.start
        [.realize 0 (loadedScript (msixScript 16)) false]).ended = none ∧
      ¬ ObjectsOwned (Runs.run (deviceStep Framework.standard) Process.start
        [.realize 0 (loadedScript (msixScript 16)) false]) := by
  refine ⟨fun h => ?_, fun h => ?_, rfl, fun h => ?_⟩
  · exact Bool.false_ne_true (h.registered 0 List.mem_cons_self)
  · exact Bool.false_ne_true (h.registered 0 List.mem_cons_self)
  · rcases h 0 rfl with ⟨d, dev, hd, _⟩
    exact Option.some_ne_none dev hd.symm

end QemuTestdrive
