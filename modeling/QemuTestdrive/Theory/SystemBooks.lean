import QemuTestdrive.Core.Access
import QemuTestdrive.Lib.Handles
import QemuTestdrive.Theory.Construction

/-!
# The Libraries and Systems of a Device

A system is made by one device from the library it has loaded, and is called
through that device: `LoadSystemModule` initialises it and gives it its interrupt
service, the scripts ask it for its memory, and the accesses of a guest reach its
`io_slave`. A script may load one module over another, and a load may fail after any
of its steps. In all of that a system must be called only between its creation and
its release, and only while the library that has its code is loaded.

A call is one of a method of the system. The pointers into its memory that a device
keeps are another matter, since they stay where they are when the system goes.

Libraries and systems are numbered handles, and `Resource.act` reads what is done
with them off the trace. A device is not alone in its process, so `Books` is the
ledger of one device among others: what is open is what the device holds and
what the `other` devices hold. The device that holds a system holds its library
too, so a call finds both open. Every operation of a device carries the books on,
whatever the others hold.

## Main definitions

* `Resource`: Libraries or systems, and what the program does with them.
* `CalledLoaded`: A system is called and released while its library is loaded.
* `Books`: The ledgers of one device among others.

## Theorems

* `books_safeRelease`, `books_freeModule`, `books_openLibrary`,
  `books_createSystem`: The steps of a load.
* `books_load`: A load, whatever its outcome.
* `Books.logged`: Messages, and questions to the system that is held.
* `books_call`, `books_access`, `books_displayUpdate`: The other operations.
-/

namespace QemuTestdrive

open Handles

/-- What a device holds of the outside. -/
inductive Resource where
  | library
  | system

namespace Resource

/-- What an event does with a library, or with a system. -/
def act : Resource → Event → Option (Act Nat)
  | library, .loadLibrary _ (some lib) => some (.acquire lib)
  | library, .createSystem lib _ => some (.use lib)
  | library, .freeLibrary lib => some (.release lib)
  | system, .createSystem _ s => some (.acquire s)
  | system, .initializeSimulation s _ => some (.use s)
  | system, .registerInterruptService s _ => some (.use s)
  | system, .enableInterrupt s _ => some (.use s)
  | system, .systemCall s _ => some (.use s)
  | system, .ioSlave s _ _ _ => some (.use s)
  | system, .release s => some (.release s)
  | _, _ => none

/-- What an object holds. -/
def held : Resource → TestDrive → Option Nat
  | library, o => o.mhSystemImpModule
  | system, o => o.mpSystem.map SimSystem.id

/-- The number the next one gets. -/
def next : Resource → World → Nat
  | library, w => w.libraries
  | system, w => w.systems

/-- What has been done so far. -/
def acts (k : Resource) (es : List Event) : List (Act Nat) :=
  es.filterMap k.act

theorem acts_append (k : Resource) (es fs : List Event) :
    k.acts (es ++ fs) = k.acts es ++ k.acts fs :=
  List.filterMap_append

theorem acts_append_neutral (k : Resource) (es : List Event) {fs : List Event}
    (hfs : ∀ e ∈ fs, k.act e = none) : k.acts (es ++ fs) = k.acts es := by
  have hnil : k.acts fs = [] := List.filterMap_eq_nil_iff.mpr hfs
  rw [acts_append, hnil, List.append_nil]

theorem acts_concat (k : Resource) (es : List Event) {e : Event} {a : Act Nat}
    (he : k.act e = some a) : k.acts (es ++ [e]) = k.acts es ++ [a] := by
  have hone : k.acts [e] = [a] := by
    rw [acts, List.filterMap_cons_some he, List.filterMap_nil]
  rw [acts_append, hone]

end Resource

/-- The event is a call of the system `s`, or its release. -/
def Event.Reaches (e : Event) (s : Nat) : Prop :=
  Resource.system.act e = some (.use s) ∨ Resource.system.act e = some (.release s)

/-- Whenever a system is called or released, the library it was made from is
    loaded. -/
def CalledLoaded (es : List Event) : Prop :=
  ∀ pre e post s, es = pre ++ e :: post → e.Reaches s →
    ∃ lib, .createSystem lib s ∈ pre ∧ Open (Resource.library.acts pre) lib

theorem calledLoaded_concat {es : List Event} (h : CalledLoaded es) {e : Event}
    (he : ∀ s, e.Reaches s →
      ∃ lib, .createSystem lib s ∈ es ∧ Open (Resource.library.acts es) lib) :
    CalledLoaded (es ++ [e]) := by
  intro pre f post s hsplit hf
  rcases List.eq_nil_or_concat post with rfl | ⟨post, g, rfl⟩
  · rcases List.append_inj' hsplit rfl with ⟨rfl, hlast⟩
    rw [← List.singleton_inj.mp hlast] at hf
    exact he s hf
  · rw [List.concat_eq_append, ← List.cons_append, ← List.append_assoc] at hsplit
    exact h pre f post s (List.append_inj' hsplit rfl).1 hf

/-- Events that do not reach a system. -/
theorem calledLoaded_append {es : List Event} (h : CalledLoaded es) (fs : List Event)
    (hfs : ∀ e ∈ fs, Resource.system.act e = none) : CalledLoaded (es ++ fs) := by
  induction fs generalizing es with
  | nil => rwa [List.append_nil]
  | cons e fs ih =>
      rw [List.forall_mem_cons] at hfs
      rw [← List.singleton_append, ← List.append_assoc]
      refine ih (calledLoaded_concat h fun s hs => ?_) hfs.2
      rw [Event.Reaches, hfs.1] at hs
      exact absurd hs (by simp only [reduceCtorEq, or_self, not_false_eq_true])

/-- The ledgers of libraries and systems, where the device is one among others,
    which hold `other`. The system it holds was made from the library it holds.
    Nothing that happened before `w` has been forgotten. -/
structure Books (w : World) (other : Resource → Nat → Prop) (x : Ctx) : Prop where
  ledger : ∀ k : Resource, Ledger (k.acts x.world.trace)
    (fun n => other k n ∨ k.held x.this = some n) (k.next x.world)
  apart : ∀ k n, Resource.held k x.this = some n → ¬ other k n
  made : ∀ s, Resource.system.held x.this = some s → ∃ lib,
    Resource.library.held x.this = some lib ∧ .createSystem lib s ∈ x.world.trace
  called : CalledLoaded x.world.trace
  grows : w.trace ⊆ x.world.trace

section Books

variable {w : World} {other : Resource → Nat → Prop} {x y : Ctx}

/-- A system that is held is made from a library that is loaded. -/
theorem Books.loaded (h : Books w other x) {s : Nat}
    (hs : Resource.system.held x.this = some s) :
    ∃ lib, .createSystem lib s ∈ x.world.trace ∧
      Open (Resource.library.acts x.world.trace) lib := by
  rcases h.made s hs with ⟨lib, hlib, hmade⟩
  exact ⟨lib, hmade, ((h.ledger .library).open_iff lib).mpr (Or.inr hlib)⟩

section Ledger

variable {k : Resource} {e : Event} {n : Nat}

/-- The ledger after events that do not concern it. -/
theorem Books.ledger_neutral (h : Books w other x) {es : List Event}
    (htrace : y.world.trace = x.world.trace ++ es) (hes : ∀ e ∈ es, k.act e = none)
    (hheld : k.held y.this = k.held x.this) (hnext : k.next y.world = k.next x.world) :
    Ledger (k.acts y.world.trace) (fun n => other k n ∨ k.held y.this = some n)
      (k.next y.world) := by
  rw [htrace, k.acts_append_neutral _ hes, hheld, hnext]
  exact h.ledger k

theorem Books.ledger_acquire (h : Books w other x) (htrace : y.world.trace = x.world.trace ++ [e])
    (he : k.act e = some (.acquire (k.next x.world))) (hold : k.held x.this = none)
    (hheld : k.held y.this = some (k.next x.world))
    (hnext : k.next y.world = k.next x.world + 1) :
    Ledger (k.acts y.world.trace) (fun n => other k n ∨ k.held y.this = some n)
      (k.next y.world) := by
  rw [htrace, k.acts_concat _ he, hnext]
  refine (h.ledger k).acquire fun n => ?_
  rw [hheld, hold, Option.some.injEq, eq_comm]
  exact or_congr_left (or_iff_left (Option.some_ne_none n).symm).symm

theorem Books.ledger_use (h : Books w other x) (htrace : y.world.trace = x.world.trace ++ [e])
    (he : k.act e = some (.use n)) (hn : k.held x.this = some n)
    (hheld : k.held y.this = k.held x.this) (hnext : k.next y.world = k.next x.world) :
    Ledger (k.acts y.world.trace) (fun n => other k n ∨ k.held y.this = some n)
      (k.next y.world) := by
  rw [htrace, k.acts_concat _ he, hheld, hnext]
  exact (h.ledger k).use (Or.inr hn)

theorem Books.ledger_release (h : Books w other x) (htrace : y.world.trace = x.world.trace ++ [e])
    (he : k.act e = some (.release n)) (hn : k.held x.this = some n)
    (hheld : k.held y.this = none) (hnext : k.next y.world = k.next x.world) :
    Ledger (k.acts y.world.trace) (fun n => other k n ∨ k.held y.this = some n)
      (k.next y.world) := by
  rw [htrace, k.acts_concat _ he, hnext]
  refine (h.ledger k).release (Or.inr hn) fun m => ?_
  rw [hheld, hn, or_iff_left (Option.some_ne_none m).symm, Option.some.injEq]
  -- Only one is held, and it is none of the others'.
  constructor
  · exact fun hm => ⟨Or.inl hm, fun heq => h.apart k n hn (heq ▸ hm)⟩
  · rintro ⟨hm | hm, hne⟩
    · exact hm
    · exact absurd hm.symm hne

end Ledger

/-- Events that concern neither libraries nor systems. -/
theorem Books.neutral (h : Books w other x) {es : List Event}
    (htrace : y.world.trace = x.world.trace ++ es)
    (hes : ∀ e ∈ es, ∀ k : Resource, k.act e = none)
    (hheld : ∀ k : Resource, k.held y.this = k.held x.this)
    (hnext : ∀ k : Resource, k.next y.world = k.next x.world) : Books w other y := by
  refine ⟨fun k => h.ledger_neutral htrace (fun e he => hes e he k) (hheld k) (hnext k),
    fun k n hn => h.apart k n (hheld k ▸ hn), fun s hs => ?_, ?_, ?_⟩
  · rw [hheld, htrace]
    rcases h.made s (hheld .system ▸ hs) with ⟨lib, hlib, hmade⟩
    exact ⟨lib, hlib, List.mem_append_left _ hmade⟩
  · rw [htrace]
    exact calledLoaded_append h.called es fun e he => hes e he .system
  · rw [htrace]
    exact List.subset_append_of_subset_left _ h.grows

/-- An event that concerns neither. -/
theorem Books.emit (h : Books w other x) (e : Event) (he : ∀ k : Resource, k.act e = none) :
    Books w other (x.emit e) :=
  h.neutral rfl (List.forall_mem_singleton.mpr he) (fun _ => rfl) fun k => by cases k <;> rfl

theorem Books.log (h : Books w other x) (mode : LogMode) (text : String) :
    Books w other (x.log mode text) :=
  h.emit _ fun k => by cases k <;> rfl

/-- A call of the system that is held. -/
theorem Books.call (h : Books w other x) (e : Event) {s : Nat}
    (he : Resource.system.act e = some (.use s)) (hlib : Resource.library.act e = none)
    (hs : Resource.system.held x.this = some s) : Books w other (x.emit e) := by
  refine ⟨fun k => ?_, h.apart, fun r hr => ?_, ?_, List.subset_append_of_subset_left _ h.grows⟩
  · cases k with
    | library => exact h.ledger_neutral rfl (List.forall_mem_singleton.mpr hlib) rfl rfl
    | system => exact h.ledger_use rfl he hs rfl rfl
  · rcases h.made r hr with ⟨lib, hheld, hmade⟩
    exact ⟨lib, hheld, List.mem_append_left _ hmade⟩
  · refine calledLoaded_concat h.called fun r hr => ?_
    -- The system that is called is the one that is held.
    simp only [Event.Reaches, he, Option.some.injEq, Act.use.injEq, reduceCtorEq, or_false] at hr
    exact h.loaded (hr ▸ hs)

/-- Messages, and questions to the system that is held. -/
theorem Books.told (h : Books w other x) (es : List Event)
    (hes : ∀ e ∈ es, e.Told x.this.mpSystem) :
    Books w other (x.withTrace (x.world.trace ++ es)) := by
  induction es generalizing x with
  | nil => rwa [List.append_nil]
  | cons e es ih =>
      rw [List.forall_mem_cons] at hes
      have hemit : Books w other (x.emit e) := by
        cases hes.1 with
        | message l => exact h.log l.1 l.2
        | asked hs method => exact h.call _ rfl rfl (congrArg (Option.map SimSystem.id) hs)
      rw [← List.singleton_append, ← List.append_assoc]
      exact ih hemit hes.2

theorem Books.logged (h : Books w other x) (hl : Logged x y) : Books w other y := by
  rcases hl.trace with ⟨es, hes, hall⟩
  have htrace : y.world.trace = (x.withTrace (x.world.trace ++ es)).world.trace ++ [] := by
    rw [hes, List.append_nil]
    rfl
  refine (h.told es hall).neutral htrace (fun _ he => absurd he List.not_mem_nil) (fun k => ?_)
    fun k => ?_
  · cases k with
    | library => exact hl.mhSystemImpModule
    | system => exact congrArg (Option.map SimSystem.id) hl.mpSystem
  · cases k with
    | library => exact hl.libraries
    | system => exact hl.systems

/-- The release of what is held, if anything. -/
theorem books_safeRelease (h : Books w other x) : Books w other x.safeRelease := by
  unfold Ctx.safeRelease
  rcases hs : x.this.mpSystem with _ | s
  · exact h
  · have hheld : Resource.system.held x.this = some s.id := congrArg (Option.map SimSystem.id) hs
    refine ⟨fun k => ?_, fun k n hn => ?_, fun r hr => ?_, ?_,
      List.subset_append_of_subset_left _ h.grows⟩
    · cases k with
      | library => exact h.ledger_neutral rfl (List.forall_mem_singleton.mpr rfl) rfl rfl
      | system => exact h.ledger_release rfl rfl hheld rfl rfl
    · cases k with
      | library => exact h.apart .library n hn
      | system => exact absurd hn.symm (Option.some_ne_none n)
    · exact absurd hr.symm (Option.some_ne_none r)
    · refine calledLoaded_concat h.called fun r hr => ?_
      simp only [Event.Reaches, Resource.act, Option.some.injEq, Act.release.injEq, reduceCtorEq,
        false_or] at hr
      exact h.loaded (hr ▸ hheld)

/-- Freeing the library of a device that holds no system. -/
theorem books_freeModule (h : Books w other x) (hnone : x.this.mpSystem = none) :
    Books w other x.freeModule := by
  unfold Ctx.freeModule
  rcases hlib : x.this.mhSystemImpModule with _ | lib
  · exact h
  · have hsystem : Resource.system.held x.this = none := congrArg (Option.map SimSystem.id) hnone
    refine ⟨fun k => ?_, fun k n hn => ?_, fun r hr => ?_, ?_,
      List.subset_append_of_subset_left _ h.grows⟩
    · cases k with
      | library => exact h.ledger_release rfl rfl hlib rfl rfl
      | system => exact h.ledger_neutral rfl (List.forall_mem_singleton.mpr rfl) rfl rfl
    · cases k with
      | library => exact absurd hn.symm (Option.some_ne_none n)
      | system => exact h.apart .system n hn
    · exact absurd (hr.symm.trans hsystem) (Option.some_ne_none r)
    · exact calledLoaded_append h.called _ (List.forall_mem_singleton.mpr rfl)

/-- Loading a library, for a device that holds nothing. -/
theorem books_openLibrary (h : Books w other x) (hlib : x.this.mhSystemImpModule = none)
    (hnone : x.this.mpSystem = none) (file : String) : Books w other (x.openLibrary file) := by
  have hsystem : Resource.system.held x.this = none := congrArg (Option.map SimSystem.id) hnone
  refine ⟨fun k => ?_, fun k n hn => ?_, fun r hr => ?_, ?_,
    List.subset_append_of_subset_left _ h.grows⟩
  · cases k with
    | library => exact h.ledger_acquire rfl rfl hlib rfl rfl
    | system => exact h.ledger_neutral rfl (List.forall_mem_singleton.mpr rfl) rfl rfl
  · cases k with
    | library =>
        -- The others hold libraries that were loaded before.
        intro hother
        have hlt := (h.ledger .library).lt (Or.inl hother)
        rw [← Option.some.inj hn] at hlt
        exact Nat.lt_irrefl _ hlt
    | system => exact h.apart .system n hn
  · exact absurd (hr.symm.trans hsystem) (Option.some_ne_none r)
  · exact calledLoaded_append h.called _ (List.forall_mem_singleton.mpr rfl)

/-- A new system from the library that is held, for a device that holds none. -/
theorem books_createSystem (h : Books w other x) (hnone : x.this.mpSystem = none) {lib : Nat}
    (hlib : x.this.mhSystemImpModule = some lib) (sim : ISystemSim) :
    Books w other (x.createSystem lib sim) := by
  have hsystem : Resource.system.held x.this = none := congrArg (Option.map SimSystem.id) hnone
  refine ⟨fun k => ?_, fun k n hn => ?_, fun r hr => ⟨lib, hlib, ?_⟩, ?_,
    List.subset_append_of_subset_left _ h.grows⟩
  · cases k with
    | library => exact h.ledger_use rfl rfl hlib rfl rfl
    | system => exact h.ledger_acquire rfl rfl hsystem rfl rfl
  · cases k with
    | library => exact h.apart .library n hn
    | system =>
        intro hother
        have hlt := (h.ledger .system).lt (Or.inl hother)
        rw [← Option.some.inj hn] at hlt
        exact Nat.lt_irrefl _ hlt
  · rw [← Option.some.inj hr]
    exact List.mem_append_right _ List.mem_cons_self
  · refine calledLoaded_concat h.called fun r hr => ?_
    simp only [Event.Reaches, Resource.act, Option.some.injEq, reduceCtorEq, or_self] at hr

theorem books_destructor (h : Books w other x) : Books w other x.destructor :=
  books_freeModule (books_safeRelease h) (safeRelease_mpSystem x)

theorem books_shutdown (h : Books w other x) : Books w other x.shutdown := by
  unfold Ctx.shutdown
  split
  · exact books_safeRelease h
  · exact h

theorem freeModule_mhSystemImpModule (x : Ctx) : x.freeModule.this.mhSystemImpModule = none := by
  unfold Ctx.freeModule
  rcases hlib : x.this.mhSystemImpModule with _ | lib
  · exact hlib
  · rfl

theorem books_load (h : Books w other x) (file : String) (o : LoadOutcome) :
    Books w other (x.loadSystemModule file o).1 := by
  -- The old pair goes first, so the new one is all the device holds.
  have hfree : Books w other x.safeRelease.freeModule := books_destructor h
  have hnone : x.safeRelease.freeModule.this.mpSystem = none :=
    (freeModule_mpSystem _).trans (safeRelease_mpSystem x)
  have hopen := books_openLibrary hfree (freeModule_mhSystemImpModule _) hnone file
  cases o with
  | noLibrary => exact (hfree.emit _ fun k => by cases k <;> rfl).log _ _
  | noEntry => exact hopen.log _ _
  | noSystem => exact hopen.log _ _
  | initFails sim =>
      have hcreate := books_createSystem hopen hnone rfl sim
      have hinit := hcreate.call
        (.initializeSimulation x.safeRelease.freeModule.world.systems false) rfl rfl rfl
      exact (books_safeRelease hinit).log _ _
  | success sim =>
      have hcreate := books_createSystem hopen hnone rfl sim
      have hinit := hcreate.call
        (.initializeSimulation x.safeRelease.freeModule.world.systems true) rfl rfl rfl
      have hregister := hinit.call (.registerInterruptService
        x.safeRelease.freeModule.world.systems x.safeRelease.freeModule.this.mpdev) rfl rfl rfl
      exact hregister.call (.enableInterrupt x.safeRelease.freeModule.world.systems true)
        rfl rfl rfl

theorem books_call (F : Framework) (h : Books w other x) (c : ScriptCall) :
    Books w other (step F x c) := by
  by_cases hload : ∃ file o, c = .loadSystemModule file o
  · rcases hload with ⟨file, o, rfl⟩
    exact books_load h file o
  · by_cases hnull : c = .getDescription ∧ x.this.mpSystem = none
    · rcases hnull with ⟨rfl, hs⟩
      have hstep : step F x .getDescription = x.emit (.nullCall "GetDescription") := by
        simp only [step, exec, Ctx.getDescription, hs]
      rw [hstep]
      exact h.emit _ fun k => by cases k <;> rfl
    · rw [not_and] at hnull
      exact h.logged (exec_logged F x c (fun file o hc => hload ⟨file, o, hc⟩) fun hc =>
        Option.isSome_iff_ne_none.mpr (hnull hc))

/-- The question for the second script, which does not look whether there is a system. -/
theorem books_simulationScript (h : Books w other x) : Books w other x.simulationScript.1 := by
  unfold Ctx.simulationScript
  split
  · rename_i s hs
    exact h.logged (logged_ask hs _)
  · exact h.emit _ fun k => by cases k <;> rfl

theorem books_construct (F : Framework) (h : Books w other x) (script : Option SetupScript) :
    Books w other (construct F script x).1 :=
  construct_preserves F (P := Books w other) (fun _ c hy => books_call F hy c)
    (fun _ hy => books_simulationScript hy) (fun _ mode text hy => hy.log mode text) script h

theorem books_memIO (h : Books w other x) (bWrite : Bool) (addr : UInt64) (val io : UInt32) :
    Books w other (x.memIO bWrite addr val io).1 := by
  unfold Ctx.memIO
  rcases hs : x.this.mpSystem with _ | s
  · exact h
  · exact h.call _ rfl rfl (congrArg (Option.map SimSystem.id) hs)

theorem books_access (h : Books w other x) (a : GuestAccess) : Books w other (x.access a) := by
  have hcopy : ∀ bWrite p n, ∀ k : Resource, k.act (.memcpy bWrite p n) = none :=
    fun _ _ _ k => by cases k <;> rfl
  cases a with
  | read bar offset n io =>
      unfold Ctx.access Ctx.testdriveBarRead
      simp only
      split
      · exact h.emit _ (hcopy _ _ _)
      · split
        · exact books_memIO h _ _ _ _
        · exact h.log _ _
  | write bar offset val n io =>
      unfold Ctx.access Ctx.testdriveBarWrite
      simp only
      split
      · exact h.neutral rfl (List.forall_mem_singleton.mpr (hcopy _ _ _)) (fun _ => rfl)
          fun k => by cases k <;> rfl
      · split
        · exact books_memIO h _ _ _ _
        · exact h.log _ _

theorem books_displayUpdate (h : Books w other x) (width height : Int32) :
    Books w other (x.testdriveDisplayUpdate width height) := by
  have hqemu : ∀ call, ∀ k : Resource, k.act (.qemu call) = none := fun _ k => by cases k <;> rfl
  have hresize : Books w other (x.resizeDisplay width height) := by
    unfold Ctx.resizeDisplay
    simp only
    split
    · have hset : Books w other (x.setDisplay { x.this.display with
          width := width.toUInt32.toUInt16, height := height.toUInt32.toUInt16 }) :=
        h.neutral (List.append_nil _).symm (fun _ he => absurd he List.not_mem_nil)
          (fun k => by cases k <;> rfl) fun _ => rfl
      exact (hset.emit _ (hqemu _)).log _ _
    · exact h
  unfold Ctx.testdriveDisplayUpdate
  simp only
  split
  · exact (hresize.emit _ fun k => by cases k <;> rfl).emit _ (hqemu _)
  · exact (hresize.emit _ fun k => by cases k <;> rfl).emit _ (hqemu _)

end Books

end QemuTestdrive
