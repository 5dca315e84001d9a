import QemuTestdrive.Core.Emulator
import QemuTestdrive.Theory.Notifiers
import QemuTestdrive.Theory.SystemBooks

/-!
# Calls of the Simulation Systems

Devices come and go in any order, guests access them and their displays are
refreshed. A library or a system belongs to one of the objects of the process, so
the ledgers of the process are put together from the books of one object at a
time: `Accounts` says that what is open is what the objects hold, each for
itself.

The exit of the emulator runs the notifier of every device and releases their
systems. An object whose realize has failed has no device, so what it holds is
what stays, and the same goes for the object whose script ends the process. The
libraries stay loaded in any case, since only the destructor frees them.

## Main definitions

* `Process.HoldsAt`: An object of the process holds a library or a system.
* `Accounts`: The ledgers of the process.
* `SystemsKept`: The systems of a process, and after its exit.

## Theorems

* `Books.accounts`: The process, from the books of one object.
* `accounts_onDrive`, `accounts_constructed`: An operation on one object, and a new
  object.
* `accounts_step`: Every operation of the process.
* `holdsAt_emulatorExit`: What is held after the exit.
* `systemsKept_run`: Every run of the emulator.
-/

namespace QemuTestdrive

open Handles

/-- The object `t` of the process holds the library or system `n`. -/
def Process.HoldsAt (p : Process) (k : Resource) (t n : Nat) : Prop :=
  ∃ o, p.drives t = some o ∧ k.held o = some n

/-- What the objects but `t` hold. -/
def Process.HeldBeside (p : Process) (t : Nat) (k : Resource) (n : Nat) : Prop :=
  ∃ t', t' ≠ t ∧ p.HoldsAt k t' n

/-- The ledgers of the process: what is open is what its objects hold, each for
    itself, every system is held with its library, and no object has a number to
    come. -/
structure Accounts (p : Process) : Prop where
  ledger : ∀ k : Resource, Ledger (k.acts p.world.trace) (fun n => ∃ t, p.HoldsAt k t n)
    (k.next p.world)
  apart : ∀ k t t' n, p.HoldsAt k t n → p.HoldsAt k t' n → t = t'
  made : ∀ t s, p.HoldsAt .system t s →
    ∃ lib, p.HoldsAt .library t lib ∧ .createSystem lib s ∈ p.world.trace
  called : CalledLoaded p.world.trace
  fresh : ∀ t, p.objects ≤ t → p.drives t = none

section Accounts

variable {p q : Process}

/-- The books of one object of the process. -/
theorem Accounts.books (h : Accounts p) {t : Nat} {o : TestDrive} (ht : p.drives t = some o)
    (param : TestdriveParam) :
    Books p.world (p.HeldBeside t) { this := o, param := param, world := p.world } := by
  refine ⟨fun k => (h.ledger k).congr fun n => ?_, ?_, fun s hs => ?_, h.called,
    List.Subset.refl _⟩
  · constructor
    · rintro ⟨t', ht'⟩
      by_cases heq : t' = t
      · rcases ht' with ⟨o', ho', hn⟩
        rw [heq, ht, Option.some.injEq] at ho'
        exact Or.inr (ho' ▸ hn)
      · exact Or.inl ⟨t', heq, ht'⟩
    · rintro (⟨t', _, ht'⟩ | hn)
      · exact ⟨t', ht'⟩
      · exact ⟨t, o, ht, hn⟩
  · rintro k n hn ⟨t', hne, ht'⟩
    exact hne (h.apart k t' t n ht' ⟨o, ht, hn⟩)
  · rcases h.made t s ⟨o, ht, hs⟩ with ⟨lib, ⟨o', ho', hlib⟩, hmade⟩
    rw [ht, Option.some.injEq] at ho'
    exact ⟨lib, ho' ▸ hlib, hmade⟩

/-- The process, put together again from the books of the object `t`, which is
    stored or is gone, and what the other objects hold. -/
theorem Books.accounts {x : Ctx} {t : Nat} {o : Option TestDrive}
    (h : Books p.world (p.HeldBeside t) x) (hp : Accounts p) (hworld : q.world = x.world)
    (hdrives : ∀ i, q.drives i = if i = t then o else p.drives i)
    (ho : o = some x.this ∨ o = none ∧ ∀ k : Resource, k.held x.this = none)
    (hfresh : ∀ i, q.objects ≤ i → q.drives i = none) : Accounts q := by
  have hself : ∀ k n, q.HoldsAt k t n ↔ k.held x.this = some n := by
    intro k n
    unfold Process.HoldsAt
    rw [hdrives t, if_pos rfl]
    rcases ho with rfl | ⟨rfl, hnone⟩
    · constructor
      · rintro ⟨o, heq, hn⟩
        exact Option.some.inj heq ▸ hn
      · exact fun hn => ⟨x.this, rfl, hn⟩
    · rw [hnone]
      refine iff_of_false ?_ (Option.some_ne_none n).symm
      rintro ⟨o, heq, _⟩
      exact Option.some_ne_none o heq.symm
  have hothers : ∀ t', t' ≠ t → ∀ k n, q.HoldsAt k t' n ↔ p.HoldsAt k t' n := by
    intro t' hne k n
    unfold Process.HoldsAt
    rw [hdrives t', if_neg hne]
  refine ⟨fun k => ?_, ?_, fun t' s hs => ?_, hworld ▸ h.called, hfresh⟩
  · rw [hworld]
    refine (h.ledger k).congr fun n => ?_
    constructor
    · rintro (⟨t', hne, ht'⟩ | hn)
      · exact ⟨t', (hothers t' hne k n).mpr ht'⟩
      · exact ⟨t, (hself k n).mpr hn⟩
    · rintro ⟨t', ht'⟩
      by_cases heq : t' = t
      · exact Or.inr ((hself k n).mp (heq ▸ ht'))
      · exact Or.inl ⟨t', heq, (hothers t' heq k n).mp ht'⟩
  · intro k a b n ha hb
    -- Two holders are the object `t` twice, two others, or one of each.
    by_cases hat : a = t
    · by_cases hbt : b = t
      · rw [hat, hbt]
      · rw [hat, hself] at ha
        exact absurd ⟨b, hbt, (hothers b hbt k n).mp hb⟩ (h.apart k n ha)
    · by_cases hbt : b = t
      · rw [hbt, hself] at hb
        exact absurd ⟨a, hat, (hothers a hat k n).mp ha⟩ (h.apart k n hb)
      · exact hp.apart k a b n ((hothers a hat k n).mp ha) ((hothers b hbt k n).mp hb)
  · rw [hworld]
    by_cases heq : t' = t
    · rw [heq, hself] at hs
      rcases h.made s hs with ⟨lib, hlib, hmade⟩
      exact ⟨lib, heq ▸ (hself .library lib).mpr hlib, hmade⟩
    · rcases hp.made t' s ((hothers t' heq .system s).mp hs) with ⟨lib, hlib, hmade⟩
      exact ⟨lib, (hothers t' heq .library lib).mpr hlib, h.grows hmade⟩

/-- An operation on one object that keeps its books keeps the accounts. -/
theorem accounts_onDrive (h : Accounts p) (t : Nat) {f : Ctx → Ctx}
    (hf : ∀ w other x, Books w other x → Books w other (f x)) : Accounts (p.onDrive t f) := by
  unfold Process.onDrive
  rcases ht : p.drives t with _ | o
  · exact h
  · refine (hf _ _ _ (h.books ht p.param)).accounts h rfl (fun i => rfl) (Or.inl rfl)
      fun i hi => ?_
    -- The object was there before, so it is none of those to come.
    have hne : i ≠ t := fun heq => Option.some_ne_none o (ht.symm.trans (h.fresh t (heq ▸ hi)))
    exact (if_neg hne).trans (h.fresh i hi)

/-- Events that concern neither libraries nor systems, with no change to the
    objects. -/
theorem Accounts.neutral (h : Accounts p) {es : List Event}
    (htrace : q.world.trace = p.world.trace ++ es)
    (hes : ∀ e ∈ es, ∀ k : Resource, k.act e = none)
    (hnext : ∀ k : Resource, k.next q.world = k.next p.world) (hdrives : q.drives = p.drives)
    (hobjects : q.objects = p.objects) : Accounts q := by
  have hholds : ∀ k t n, q.HoldsAt k t n ↔ p.HoldsAt k t n := by
    intro k t n
    unfold Process.HoldsAt
    rw [hdrives]
  refine ⟨fun k => ?_, fun k t t' n ha hb => ?_, fun t s hs => ?_, ?_, fun t ht => ?_⟩
  · rw [htrace, k.acts_append_neutral _ fun e he => hes e he k, hnext]
    exact (h.ledger k).congr fun n => exists_congr fun t => (hholds k t n).symm
  · exact h.apart k t t' n ((hholds k t n).mp ha) ((hholds k t' n).mp hb)
  · rcases h.made t s ((hholds .system t s).mp hs) with ⟨lib, hlib, hmade⟩
    rw [htrace]
    exact ⟨lib, (hholds .library t lib).mpr hlib, List.mem_append_left _ hmade⟩
  · rw [htrace]
    exact calledLoaded_append h.called es fun e he => hes e he .system
  · rw [hdrives]
    exact h.fresh t (hobjects ▸ ht)

theorem qemu_act {calls : List QemuCall} :
    ∀ e ∈ calls.map Event.qemu, ∀ k : Resource, k.act e = none := by
  intro e he k
  rcases List.mem_map.mp he with ⟨call, _, rfl⟩
  cases k <;> rfl

theorem Accounts.qemu (h : Accounts p) (calls : List QemuCall) : Accounts (p.qemu calls) := by
  rw [Process.qemu_eq]
  exact h.neutral rfl qemu_act (fun k => by cases k <;> rfl) rfl rfl

/-- The scripts of a new object run beside all the others. -/
theorem accounts_constructed (F : Framework) (h : Accounts p) (d : Nat)
    (script : Option SetupScript) : Accounts (p.constructed F d script) := by
  have hnone : p.drives p.objects = none := h.fresh p.objects (Nat.le_refl _)
  have hheld : ∀ (k : Resource) n, k.held (p.scriptStart d).this ≠ some n := by
    intro k n hn
    cases k <;> exact Option.some_ne_none n hn.symm
  have hstart : Books p.world (p.HeldBeside p.objects) (p.scriptStart d) := by
    refine ⟨fun k => (h.ledger k).congr fun n => ?_, fun k n hn => absurd hn (hheld k n),
      fun s hs => absurd hs (hheld _ s), h.called, List.Subset.refl _⟩
    rw [or_iff_left (hheld k n)]
    constructor
    · rintro ⟨t, ht⟩
      refine ⟨t, fun heq => ?_, ht⟩
      rcases ht with ⟨o, ho, _⟩
      exact Option.some_ne_none o (ho.symm.trans (heq ▸ hnone))
    · rintro ⟨t, _, ht⟩
      exact ⟨t, ht⟩
  refine (books_construct F hstart script).accounts h rfl (fun i => rfl) (Or.inl rfl) fun i hi => ?_
  have hlt : p.objects + 1 ≤ i := hi
  exact (if_neg (by omega)).trans (h.fresh i (by omega))

theorem accounts_created (F : Framework) (h : Accounts p) (d : Nat) (script : Option SetupScript) :
    Accounts (p.created F d script) :=
  (accounts_constructed F h d script).neutral (List.append_nil _).symm
    (fun _ he => absurd he List.not_mem_nil) (fun _ => rfl) rfl rfl

/-- The setup of a device only calls QEMU. -/
theorem setup_world (p : Process) (d t : Nat) (initOk : Bool) :
    ∃ calls : List QemuCall, (p.setup d t initOk).world =
      { p.world with trace := p.world.trace ++ calls.map Event.qemu } := by
  unfold Process.setup
  simp only [Process.qemu_eq, Process.setDevice, List.append_assoc, ← List.map_append]
  cases p.param.interrupt.mechanism with
  | none => exact ⟨_, rfl⟩
  | msi n => exact ⟨_, rfl⟩
  | msix n iBar =>
      cases initOk with
      | true => exact ⟨_, rfl⟩
      | false => exact ⟨_, rfl⟩

/-- A realize that gets past its scripts. -/
theorem accounts_realized (F : Framework) (h : Accounts p) (d : Nat) (script : Option SetupScript)
    (initOk : Bool) : Accounts ((p.created F d script).setup d p.objects initOk) := by
  rcases setup_world (p.created F d script) d p.objects initOk with ⟨calls, hworld⟩
  rcases Process.setup_spec (p.created F d script) d p.objects initOk with ⟨_, hobjects, hdrives, _⟩
  refine (accounts_created F h d script).neutral (congrArg World.trace hworld) qemu_act
    (fun k => ?_) hdrives hobjects
  cases k with
  | library => exact (congrArg World.libraries hworld).trans rfl
  | system => exact (congrArg World.systems hworld).trans rfl

theorem destructor_held (x : Ctx) (k : Resource) : k.held x.destructor.this = none := by
  cases k with
  | library => exact freeModule_mhSystemImpModule _
  | system =>
      exact congrArg (Option.map SimSystem.id)
        ((freeModule_mpSystem _).trans (safeRelease_mpSystem x))

theorem accounts_exit (h : Accounts p) (d : Nat) (dev : Device) :
    Accounts (p.deviceExit d dev) := by
  have hq := h.qemu (uninitCalls p.param.interrupt)
  unfold Process.deviceExit
  simp only
  rcases ht : (p.qemu (uninitCalls p.param.interrupt)).drives dev.pTestDrive with _ | o
  · exact hq.neutral (List.append_nil _).symm (fun _ he => absurd he List.not_mem_nil)
      (fun _ => rfl) rfl rfl
  · refine (books_destructor (hq.books ht _)).accounts hq rfl (fun i => rfl)
      (Or.inr ⟨rfl, destructor_held _⟩) fun i hi => ?_
    by_cases heq : i = dev.pTestDrive
    · exact if_pos heq
    · exact (if_neg heq).trans (hq.fresh i hi)

theorem accounts_deviceStep (F : Framework) (h : Accounts p) (op : DeviceOp) :
    Accounts (deviceStep F p op) := by
  have heffect := deviceStep_effect F p op
  generalize deviceStep F p op = q at heffect ⊢
  cases heffect with
  | @realized d script initOk _ => exact accounts_realized F h d script initOk
  | @halted d script _ _ _ f =>
      -- The object stays behind in a process that has ended.
      exact (accounts_constructed F h d script).neutral (List.append_nil _).symm
        (fun _ he => absurd he List.not_mem_nil) (fun _ => rfl) rfl rfl
  | unrealized _ => exact h
  | @exited d dev _ _ => exact accounts_exit h d dev
  | unexited _ => exact h

/-- Every operation of the process keeps its accounts. -/
theorem accounts_step (F : Framework) (h : Accounts p) (op : EmulatorOp) :
    Accounts (emulatorStep F p op) := by
  cases op with
  | device op => exact emulatorStep_device F p op ▸ accounts_deviceStep F h op
  | access t a =>
      unfold emulatorStep
      split
      · exact h
      · exact accounts_onDrive h t fun _ _ _ hx => books_access hx a
  | displayUpdate d width height =>
      unfold emulatorStep
      split
      · exact h
      · simp only
        split
        · exact accounts_onDrive h _ fun _ _ _ hx => books_displayUpdate hx width height
        · exact h

/-- The notifier of a device takes the system from the device's object, and from
    no other. -/
theorem holdsAt_shutdownCallback (h : Accounts p) {d : Nat} (hq : p.shutdownCallback d = some q) :
    Accounts q ∧ q.devices = p.devices ∧
      ∀ t s, q.HoldsAt .system t s ↔
        p.HoldsAt .system t s ∧ ∀ dev, p.devices d = some dev → dev.pTestDrive ≠ t := by
  unfold Process.shutdownCallback at hq
  rcases hd : p.devices d with _ | dev
  · rw [hd] at hq
    exact absurd hq.symm (Option.some_ne_none q)
  · have hdev : ∀ t, (∀ e, some dev = some e → e.pTestDrive ≠ t) ↔ t ≠ dev.pTestDrive :=
      fun t => ⟨fun hne heq => hne dev rfl heq.symm, fun hne e he heq =>
        hne (Option.some.inj he ▸ heq.symm)⟩
    rw [hd] at hq
    rcases ht : p.drives dev.pTestDrive with _ | o
    · -- The object is gone, so it holds nothing.
      simp only [ht, Option.some.injEq] at hq
      subst hq
      refine ⟨h, rfl, fun t s => ?_⟩
      rw [hdev]
      refine ⟨fun hs => ⟨hs, fun heq => ?_⟩, And.left⟩
      rcases hs with ⟨o, ho, _⟩
      exact Option.some_ne_none o (ho.symm.trans (heq ▸ ht))
    · simp only [ht, Option.some.injEq] at hq
      subst hq
      refine ⟨?_, rfl, fun t s => ?_⟩
      · refine (books_shutdown (h.books ht p.param)).accounts h rfl (fun i => rfl) (Or.inl rfl)
          fun i hi => ?_
        have hne : i ≠ dev.pTestDrive := fun heq =>
          Option.some_ne_none o (ht.symm.trans (h.fresh _ (heq ▸ hi)))
        exact (if_neg hne).trans (h.fresh i hi)
      · rw [hdev]
        unfold Process.HoldsAt Process.setDrive
        simp only
        by_cases heq : t = dev.pTestDrive
        · rw [if_pos heq]
          refine iff_of_false ?_ fun hs => hs.2 heq
          rintro ⟨o', ho', hs⟩
          rw [← Option.some.inj ho', Resource.held, shutdown_mpSystem] at hs
          exact Option.some_ne_none s hs.symm
        · rw [if_neg heq, and_iff_left heq]

theorem holdsAt_foldlM (ds : List Nat) :
    ∀ {p q : Process}, Accounts p → ds.foldlM Process.shutdownCallback p = some q →
      Accounts q ∧ ∀ t s, q.HoldsAt .system t s ↔
        p.HoldsAt .system t s ∧ ∀ d ∈ ds, ∀ dev, p.devices d = some dev → dev.pTestDrive ≠ t := by
  induction ds with
  | nil =>
      intro p q h hq
      rw [List.foldlM_nil] at hq
      rw [← Option.some.inj hq]
      exact ⟨h, fun t s => (and_iff_left fun d hd => absurd hd List.not_mem_nil).symm⟩
  | cons d ds ih =>
      intro p q h hq
      rw [List.foldlM_cons] at hq
      rcases hr : p.shutdownCallback d with _ | r
      · rw [hr] at hq
        exact absurd hq.symm (Option.some_ne_none q)
      · rw [hr] at hq
        rcases holdsAt_shutdownCallback h hr with ⟨hacc, hdevices, hholds⟩
        rcases ih hacc hq with ⟨hend, hrest⟩
        refine ⟨hend, fun t s => ?_⟩
        rw [hrest, hholds, hdevices, List.forall_mem_cons, and_assoc]

/-- After the exit of the emulator, a system is held by an object that no device
    leads to. -/
theorem holdsAt_emulatorExit (h : Accounts p) (hw : Wired p) (hq : p.emulatorExit = some q) :
    Accounts q ∧ ∀ t s, q.HoldsAt .system t s ↔
      p.HoldsAt .system t s ∧ ∀ d dev, p.devices d = some dev → dev.pTestDrive ≠ t := by
  rcases holdsAt_foldlM p.exitNotifiers h hq with ⟨hend, hholds⟩
  refine ⟨hend, fun t s => ?_⟩
  rw [hholds]
  -- Every device has its notifier in the list.
  refine and_congr_right fun _ => ⟨fun hall d dev hd => ?_, fun hall d _ dev hd => hall d dev hd⟩
  exact hall d (hw.notifier d dev hd) dev hd

theorem onDrive_spec (p : Process) (t : Nat) (f : Ctx → Ctx) :
    (p.onDrive t f).devices = p.devices ∧ (p.onDrive t f).exitNotifiers = p.exitNotifiers ∧
      (p.onDrive t f).objects = p.objects := by
  unfold Process.onDrive
  cases p.drives t with
  | none => exact ⟨rfl, rfl, rfl⟩
  | some o => exact ⟨rfl, rfl, rfl⟩

/-- What a guest does touches no device and no notifier. -/
theorem wired_onDrive (h : Wired p) (t : Nat) (f : Ctx → Ctx) : Wired (p.onDrive t f) := by
  rcases onDrive_spec p t f with ⟨hdevices, hnotifiers, hobjects⟩
  constructor
  · rw [hdevices, hnotifiers]
    exact h.notifier
  · rw [hdevices, hobjects]
    exact h.object

theorem wired_emulatorStep (F : Framework) (h : Wired p) (op : EmulatorOp) :
    Wired (emulatorStep F p op) := by
  cases op with
  | device op => exact emulatorStep_device F p op ▸ wired_step F p op h
  | access t a =>
      unfold emulatorStep
      split
      · exact h
      · exact wired_onDrive h t fun x => x.access a
  | displayUpdate d width height =>
      unfold emulatorStep
      split
      · exact h
      · simp only
        split
        · exact wired_onDrive h _ _
        · exact h

end Accounts

theorem accounts_start : Accounts Process.start := by
  have hnone : ∀ k t n, ¬ Process.start.HoldsAt k t n := by
    rintro k t n ⟨o, ho, _⟩
    exact Option.some_ne_none o ho.symm
  refine ⟨fun k => ledger_nil (fun n hn => ?_) _, fun k t t' n hn => absurd hn (hnone k t n),
    fun t s hs => absurd hs (hnone _ t s), fun pre e post s hsplit => ?_, fun _ _ => rfl⟩
  · rcases hn with ⟨t, ht⟩
    exact hnone k t n ht
  · exact absurd hsplit.symm (List.append_ne_nil_of_right_ne_nil pre (List.cons_ne_nil e post))

theorem accounts_run (F : Framework) (ops : List EmulatorOp) :
    Accounts (Runs.run (emulatorStep F) Process.start ops) :=
  Runs.run_preserves (emulatorStep F) (I := Accounts) (fun _ op h => accounts_step F h op) _ ops
    accounts_start

/-- Libraries and systems are used after they have been acquired and before they
    are released, and released once; a system is called and released while its
    library is loaded. -/
structure CallsKept (es : List Event) : Prop where
  rule : ∀ k : Resource, Disciplined (k.acts es)
  called : CalledLoaded es

/-- The calls are kept, and what has not been released is held by an object. The
    exit of the emulator, when it comes through, leaves only the systems that
    objects without a device hold, and without such objects every system has been
    released once. -/
structure SystemsKept (p : Process) : Prop where
  calls : CallsKept p.world.trace
  held : ∀ k n, Open (Resource.acts k p.world.trace) n ↔ ∃ t, p.HoldsAt k t n
  exitCalls : ∀ q, p.emulatorExit = some q → CallsKept q.world.trace
  left : ∀ q, p.emulatorExit = some q → ∀ s, Open (Resource.system.acts q.world.trace) s ↔
    ∃ t, p.HoldsAt .system t s ∧ ∀ d dev, p.devices d = some dev → dev.pTestDrive ≠ t
  settled : ∀ q, p.emulatorExit = some q → ObjectsOwned p →
    ∀ s, .acquire s ∈ Resource.system.acts q.world.trace →
      (Resource.system.acts q.world.trace).count (.release s) = 1

theorem callsKept_of_accounts {p : Process} (h : Accounts p) : CallsKept p.world.trace :=
  ⟨fun k => (h.ledger k).disciplined, h.called⟩

theorem systemsKept_of_accounts {p : Process} (h : Accounts p) (hw : Wired p) : SystemsKept p := by
  have hleft : ∀ q, p.emulatorExit = some q →
      ∀ s, Open (Resource.system.acts q.world.trace) s ↔
        ∃ t, p.HoldsAt .system t s ∧ ∀ d dev, p.devices d = some dev → dev.pTestDrive ≠ t := by
    intro q hq s
    rcases holdsAt_emulatorExit h hw hq with ⟨hend, hholds⟩
    rw [(hend.ledger .system).open_iff]
    exact exists_congr fun t => hholds t s
  refine ⟨callsKept_of_accounts h, fun k => (h.ledger k).open_iff, fun q hq => ?_, hleft,
    fun q hq howned => ?_⟩
  · exact callsKept_of_accounts (holdsAt_emulatorExit h hw hq).1
  · have hrule := ((holdsAt_emulatorExit h hw hq).1.ledger .system).disciplined
    refine hrule.settled_iff.mp fun s hs => ?_
    -- An object that is left holding a system would have to be without a device.
    rcases (hleft q hq s).mp hs with ⟨t, ⟨o, ho, _⟩, hfree⟩
    rcases howned t (Option.isSome_iff_exists.mpr ⟨o, ho⟩) with ⟨d, dev, hd, hdev⟩
    exact hfree d dev hd hdev

/-- In every run of the emulator, whatever scripts its devices run and however
    their loads go, the systems are kept. -/
theorem systemsKept_run (F : Framework) (ops : List EmulatorOp) :
    SystemsKept (Runs.run (emulatorStep F) Process.start ops) := by
  have hrun := Runs.run_preserves (emulatorStep F) (I := fun p => Accounts p ∧ Wired p)
    (fun p op h => ⟨accounts_step F h.1 op, wired_emulatorStep F h.2 op⟩) Process.start ops
    ⟨accounts_start, wired_start⟩
  exact systemsKept_of_accounts hrun.1 hrun.2

end QemuTestdrive
