import QemuTestdrive.Lib.Custody
import QemuTestdrive.Theory.Events

/-!
# Modules and Systems

A module is a library that is loaded, and the system object is made from it.
`LoadSystemModule` lets go of the old pair and takes a new one, and can end
after any of its steps; `Shutdown` releases the system and keeps the library;
the destructor lets go of whatever is left.

These are the acts of nested custody, with the library as the host and the
system as the guest. `Event.act` reads them off the trace, and `Kept` relates a
state to the custody its trace amounts to: what the device's two handles say is
what is held. Each operation keeps the relation, so the trace of a whole life is
a history of custody that ends with nothing held, and the accounts of such a
history are what the lifecycle promises.

## Main definitions

* `Event.act`: The act of custody an event is.
* `Holds`: What the handles of a device say is held.
* `Kept`: The custody a trace amounts to is what the device holds.
* `CustodyKept`: At most one of each, and no library freed under a system.
* `AllReturned`: Every system released once, every library freed once.
* `ModuleLife`: The lifecycle of the modules of a device.

## Theorems

* `kept_load`, `kept_shutdown`, `kept_destructor`: The operations keep custody.
* `moduleLife_run`: The lifecycle of every life of a device.
-/

namespace QemuTestdrive

open Custody

/-- The act of custody an event is. -/
def Event.act : Event → Option (Act Nat Nat)
  | .loadLibrary _ (some h) => some (.take h)
  | .freeLibrary h => some (.give h)
  | .createSystem lib s => some (.make lib s)
  | .release s => some (.drop s)
  | _ => none

/-- The acts of custody among events. -/
def acts (es : List Event) : List (Act Nat Nat) :=
  es.filterMap Event.act

/-- What the handles of a device say is held. -/
def Holds (x : Ctx) : Held Nat Nat → Prop
  | .nothing => x.this.mhSystemImpModule = none ∧ x.this.mpSystem = none
  | .host lib => x.this.mhSystemImpModule = some lib ∧ x.this.mpSystem = none
  | .guest lib s => x.this.mhSystemImpModule = some lib ∧ ∃ t, x.this.mpSystem = some t ∧ t.id = s

/-- Since `w`, the events `es` have happened, and amount to the custody `h` the
    device holds. Libraries and systems are numbered as they come. -/
structure Kept (w : World) (es : List Event) (x : Ctx) (h : Held Nat Nat) : Prop where
  trace : x.world.trace = w.trace ++ es
  path : Path .nothing (acts es) h
  held : Holds x h
  libraries : ∃ n, takes (acts es) = List.range' w.libraries n ∧
    x.world.libraries = w.libraries + n
  systems : ∃ n, makes (acts es) = List.range' w.systems n ∧ x.world.systems = w.systems + n

/-- The system an event releases. -/
def Event.releaseOf : Event → Option Nat
  | .release s => some s
  | _ => none

/-- The library an event frees. -/
def Event.freeOf : Event → Option Nat
  | .freeLibrary h => some h
  | _ => none

/-- The system `s` has been created and is not released. -/
def Unreleased (es : List Event) (s : Nat) : Prop :=
  (∃ lib, .createSystem lib s ∈ es) ∧ .release s ∉ es

/-- The library `h` has been loaded and is not freed. -/
def Unfreed (es : List Event) (h : Nat) : Prop :=
  (∃ file, .loadLibrary file (some h) ∈ es) ∧ .freeLibrary h ∉ es

/-- At every point at most one system and one library are held, and a library is
    freed only after every system made from it has been released. -/
structure CustodyKept (es : List Event) : Prop where
  oneSystem : ∀ pre post, es = pre ++ post →
    ∀ s t, Unreleased pre s → Unreleased pre t → s = t
  oneLibrary : ∀ pre post, es = pre ++ post →
    ∀ h k, Unfreed pre h → Unfreed pre k → h = k
  freedAfter : ∀ pre lib post, es = pre ++ .freeLibrary lib :: post →
    ∀ s, .createSystem lib s ∈ pre → .release s ∈ pre

/-- Every system has been released once, and every library freed once. -/
structure AllReturned (es : List Event) : Prop where
  released : ∀ lib s, .createSystem lib s ∈ es → (es.filterMap Event.releaseOf).count s = 1
  freed : ∀ file h, .loadLibrary file (some h) ∈ es → (es.filterMap Event.freeOf).count h = 1

section Events

variable {es : List Event}

theorem acts_append (es fs : List Event) : acts (es ++ fs) = acts es ++ acts fs :=
  List.filterMap_append

theorem take_mem_acts {h : Nat} :
    h ∈ takes (acts es) ↔ ∃ file, .loadLibrary file (some h) ∈ es := by
  rw [takes, acts, List.filterMap_filterMap, List.mem_filterMap]
  constructor
  · rintro ⟨e, he, hh⟩
    cases e with
    | loadLibrary file k =>
        cases k with
        | none => simp only [Event.act, Option.bind_none, reduceCtorEq] at hh
        | some k =>
            simp only [Event.act, Option.bind_some, Option.some.injEq] at hh
            exact ⟨file, hh ▸ he⟩
    | _ => simp only [Event.act, Option.bind_some, Option.bind_none, reduceCtorEq] at hh
  · rintro ⟨file, hfile⟩
    exact ⟨_, hfile, rfl⟩

theorem make_mem_acts {lib s : Nat} : .make lib s ∈ acts es ↔ .createSystem lib s ∈ es := by
  rw [acts, List.mem_filterMap]
  constructor
  · rintro ⟨e, he, hs⟩
    cases e with
    | createSystem l t =>
        simp only [Event.act, Option.some.injEq, Act.make.injEq] at hs
        rw [← hs.1, ← hs.2]
        exact he
    | loadLibrary file k => cases k <;> simp only [Event.act, Option.some.injEq, reduceCtorEq] at hs
    | _ => simp only [Event.act, Option.some.injEq, reduceCtorEq] at hs
  · intro hs
    exact ⟨_, hs, rfl⟩

theorem gives_acts (es : List Event) : gives (acts es) = es.filterMap Event.freeOf := by
  rw [gives, acts, List.filterMap_filterMap]
  congr 1
  funext e
  cases e with
  | loadLibrary file k => cases k <;> rfl
  | _ => rfl

theorem drops_acts (es : List Event) : drops (acts es) = es.filterMap Event.releaseOf := by
  rw [drops, acts, List.filterMap_filterMap]
  congr 1
  funext e
  cases e with
  | loadLibrary file k => cases k <;> rfl
  | _ => rfl

theorem free_mem {h : Nat} : h ∈ es.filterMap Event.freeOf ↔ .freeLibrary h ∈ es := by
  rw [List.mem_filterMap]
  constructor
  · rintro ⟨e, he, hh⟩
    cases e with
    | freeLibrary k =>
        simp only [Event.freeOf, Option.some.injEq] at hh
        exact hh ▸ he
    | _ => simp only [Event.freeOf, reduceCtorEq] at hh
  · intro hh
    exact ⟨_, hh, rfl⟩

theorem release_mem {s : Nat} : s ∈ es.filterMap Event.releaseOf ↔ .release s ∈ es := by
  rw [List.mem_filterMap]
  constructor
  · rintro ⟨e, he, hs⟩
    cases e with
    | release t =>
        simp only [Event.releaseOf, Option.some.injEq] at hs
        exact hs ▸ he
    | _ => simp only [Event.releaseOf, reduceCtorEq] at hs
  · intro hs
    exact ⟨_, hs, rfl⟩

/-- A history of custody keeps the promises at each of its points. -/
theorem custodyKept_of_path {h : Held Nat Nat} (hp : Path .nothing (acts es) h) :
    CustodyKept es := by
  refine ⟨?_, ?_, ?_⟩
  · rintro pre post rfl s t hs ht
    rw [acts_append] at hp
    rcases hp.split with ⟨g, hpre, _⟩
    -- Both would be the one system held at that point.
    have hheld : ∀ r, Unreleased pre r → r ∈ g.guests := by
      rintro r ⟨⟨lib, hmade⟩, hleft⟩
      refine hpre.mem_guests (mem_makes.mpr ⟨lib, make_mem_acts.mpr hmade⟩) ?_
      rw [drops_acts, release_mem]
      exact hleft
    exact Held.guests_unique (hheld s hs) (hheld t ht)
  · rintro pre post rfl h k hh hk
    -- The same for two libraries.
    rw [acts_append] at hp
    rcases hp.split with ⟨g, hpre, _⟩
    have hheld : ∀ l, Unfreed pre l → l ∈ g.hosts := by
      rintro l ⟨hloaded, hleft⟩
      refine hpre.mem_hosts (take_mem_acts.mpr hloaded) ?_
      rw [gives_acts, free_mem]
      exact hleft
    exact Held.hosts_unique (hheld h hh) (hheld k hk)
  · rintro pre lib post rfl s hs
    -- The library is given back here, so what was made before has been dropped.
    rw [acts_append] at hp
    have hacts : acts (.freeLibrary lib :: post) = .give lib :: acts post := rfl
    rw [hacts] at hp
    have hmade : s ∈ makes (acts pre) := mem_makes.mpr ⟨lib, make_mem_acts.mpr hs⟩
    rw [hp.dropped_before_give, drops_acts, release_mem] at hmade
    exact hmade

end Events

section Kept

variable {w : World} {es : List Event} {x y : Ctx} {h : Held Nat Nat}

theorem kept_start (w : World) (hmodule : x.this.mhSystemImpModule = none)
    (hsystem : x.this.mpSystem = none) (hworld : x.world = w) : Kept w [] x .nothing := by
  refine ⟨?_, .nil _, ⟨hmodule, hsystem⟩, ⟨0, rfl, ?_⟩, ⟨0, rfl, ?_⟩⟩
  · rw [hworld, List.append_nil]
  · rw [hworld]
    rfl
  · rw [hworld]
    rfl

/-- Events that are not acts of custody change nothing. -/
theorem Kept.neutral (hk : Kept w es x h) {fs : List Event}
    (htrace : y.world.trace = x.world.trace ++ fs) (hfs : acts fs = [])
    (hmodule : y.this.mhSystemImpModule = x.this.mhSystemImpModule)
    (hsystem : y.this.mpSystem = x.this.mpSystem)
    (hlibraries : y.world.libraries = x.world.libraries)
    (hsystems : y.world.systems = x.world.systems) : Kept w (es ++ fs) y h := by
  have hacts : acts (es ++ fs) = acts es := by rw [acts_append, hfs, List.append_nil]
  refine ⟨?_, ?_, ?_, ?_, ?_⟩
  · rw [htrace, hk.trace, List.append_assoc]
  · rw [hacts]
    exact hk.path
  · have hheld := hk.held
    cases h <;> simp only [Holds] at hheld ⊢ <;> rw [hmodule, hsystem] <;> exact hheld
  · rw [hacts, hlibraries]
    exact hk.libraries
  · rw [hacts, hsystems]
    exact hk.systems

theorem Kept.emit (hk : Kept w es x h) (e : Event) (he : e.act = none) :
    Kept w (es ++ [e]) (x.emit e) h := by
  refine hk.neutral rfl ?_ rfl rfl rfl rfl
  rw [acts, List.filterMap_cons_none he, List.filterMap_nil]

theorem Kept.logged (hk : Kept w es x h) (hl : Logged x y) : ∃ fs, Kept w fs y h := by
  rcases hl.trace with ⟨fs, hfs, hall⟩
  refine ⟨_, hk.neutral hfs ?_ hl.mhSystemImpModule hl.mpSystem hl.libraries hl.systems⟩
  refine List.filterMap_eq_nil_iff.mpr fun e he => ?_
  cases hall e he with
  | message l => rfl
  | asked _ method => rfl

/-- The path of a history with one more act. -/
theorem path_act {h' : Held Nat Nat} {e : Event} {a : Act Nat Nat}
    (hp : Path .nothing (acts es) h) (he : e.act = some a) (hstep : Step h a h') :
    Path .nothing (acts (es ++ [e])) h' := by
  rw [acts_append]
  have hact : acts [e] = [a] := by rw [acts, List.filterMap_cons_some he, List.filterMap_nil]
  rw [hact]
  exact hp.append (.cons hstep (.nil h'))

/-- One more event adds what its own act takes, or makes. -/
theorem takes_concat (es : List Event) (e : Event) :
    takes (acts (es ++ [e])) = takes (acts es) ++ takes (acts [e]) := by
  rw [acts_append, takes, List.filterMap_append]

theorem makes_concat (es : List Event) (e : Event) :
    makes (acts (es ++ [e])) = makes (acts es) ++ makes (acts [e]) := by
  rw [acts_append, makes, List.filterMap_append]

theorem Kept.libraries_concat (hk : Kept w es x h) (e : Event) (he : takes (acts [e]) = []) :
    ∃ n, takes (acts (es ++ [e])) = List.range' w.libraries n ∧
      x.world.libraries = w.libraries + n := by
  rw [takes_concat, he, List.append_nil]
  exact hk.libraries

theorem Kept.systems_concat (hk : Kept w es x h) (e : Event) (he : makes (acts [e]) = []) :
    ∃ n, makes (acts (es ++ [e])) = List.range' w.systems n ∧
      x.world.systems = w.systems + n := by
  rw [makes_concat, he, List.append_nil]
  exact hk.systems

/-- Releasing the system drops the guest, and leaves the library. -/
theorem kept_safeRelease (hk : Kept w es x h) :
    ∃ fs g, Kept w fs x.safeRelease g ∧ (g = .nothing ∨ ∃ lib, g = .host lib) := by
  unfold Ctx.safeRelease
  cases h with
  | nothing =>
      rw [hk.held.2]
      exact ⟨es, .nothing, hk, Or.inl rfl⟩
  | host lib =>
      rw [hk.held.2]
      exact ⟨es, .host lib, hk, Or.inr ⟨lib, rfl⟩⟩
  | guest lib s =>
      -- The pointer is to the system held, so the release drops that one.
      rcases hk.held with ⟨hmodule, t, ht, rfl⟩
      rw [ht]
      refine ⟨es ++ [.release t.id], .host lib, ⟨?_, ?_, ⟨hmodule, rfl⟩, ?_, ?_⟩,
        Or.inr ⟨lib, rfl⟩⟩
      · simp only [Ctx.emit, World.emit, hk.trace, List.append_assoc]
      · exact path_act hk.path rfl (.drop lib t.id)
      · exact hk.libraries_concat _ rfl
      · exact hk.systems_concat _ rfl

/-- Freeing the library, with no system left, ends with nothing held. -/
theorem kept_freeModule (hk : Kept w es x h) (hhost : h = .nothing ∨ ∃ lib, h = .host lib) :
    ∃ fs, Kept w fs x.freeModule .nothing := by
  unfold Ctx.freeModule
  rcases hhost with rfl | ⟨lib, rfl⟩
  · rw [hk.held.1]
    exact ⟨es, hk⟩
  · rw [hk.held.1]
    refine ⟨es ++ [.freeLibrary lib], ⟨?_, ?_, ⟨rfl, hk.held.2⟩, ?_, ?_⟩⟩
    · simp only [Ctx.emit, World.emit, hk.trace, List.append_assoc]
    · exact path_act hk.path rfl (.give lib)
    · exact hk.libraries_concat _ rfl
    · exact hk.systems_concat _ rfl

/-- Loading a library takes the host, under the next number. -/
theorem kept_openLibrary (hk : Kept w es x .nothing) (file : String) :
    ∃ fs, Kept w fs (x.openLibrary file) (.host x.world.libraries) := by
  refine ⟨es ++ [.loadLibrary file (some x.world.libraries)], ⟨?_, ?_, ⟨rfl, hk.held.2⟩, ?_, ?_⟩⟩
  · simp only [Ctx.openLibrary, Ctx.emit, World.emit, hk.trace, List.append_assoc]
  · exact path_act hk.path rfl (.take _)
  · rcases hk.libraries with ⟨n, htakes, hcount⟩
    refine ⟨n + 1, ?_, congrArg (· + 1) hcount⟩
    rw [takes_concat, List.range'_1_concat, ← htakes, ← hcount]
    rfl
  · exact hk.systems_concat _ rfl

/-- Creating a system makes the guest, under the next number. -/
theorem kept_createSystem {lib : Nat} (hk : Kept w es x (.host lib)) (sim : ISystemSim) :
    ∃ fs, Kept w fs (x.createSystem lib sim) (.guest lib x.world.systems) := by
  refine ⟨es ++ [.createSystem lib x.world.systems],
    ⟨?_, ?_, ⟨hk.held.1, _, rfl, rfl⟩, ?_, ?_⟩⟩
  · simp only [Ctx.createSystem, Ctx.emit, World.emit, hk.trace, List.append_assoc]
  · exact path_act hk.path rfl (.make lib _)
  · exact hk.libraries_concat _ rfl
  · rcases hk.systems with ⟨n, hmakes, hcount⟩
    refine ⟨n + 1, ?_, congrArg (· + 1) hcount⟩
    rw [makes_concat, List.range'_1_concat, ← hmakes, ← hcount]
    rfl

theorem kept_destructor (hk : Kept w es x h) : ∃ fs, Kept w fs x.destructor .nothing := by
  rcases kept_safeRelease hk with ⟨fs, g, hg, hhost⟩
  exact kept_freeModule hg hhost

theorem kept_shutdown (hk : Kept w es x h) : ∃ fs g, Kept w fs x.shutdown g := by
  unfold Ctx.shutdown
  split
  · rcases kept_safeRelease hk with ⟨fs, g, hg, _⟩
    exact ⟨fs, g, hg⟩
  · exact ⟨es, h, hk⟩

/-- Whatever its outcome, a load keeps custody. -/
theorem kept_load (hk : Kept w es x h) (file : String) (o : LoadOutcome) :
    ∃ fs g, Kept w fs (x.loadSystemModule file o).1 g := by
  -- The old pair is let go of first, on every path.
  rcases kept_destructor hk with ⟨fs, hfree⟩
  unfold Ctx.destructor at hfree
  rcases kept_openLibrary hfree file with ⟨gs, hopen⟩
  cases o with
  | noLibrary => exact ⟨_, _, (hfree.emit _ rfl).emit _ rfl⟩
  | noEntry => exact ⟨_, _, hopen.emit _ rfl⟩
  | noSystem => exact ⟨_, _, hopen.emit _ rfl⟩
  | initFails sim =>
      rcases kept_createSystem hopen sim with ⟨ks, hcreate⟩
      rcases kept_safeRelease (hcreate.emit (.initializeSimulation
        x.safeRelease.freeModule.world.systems false) rfl) with ⟨ms, g, hrelease, _⟩
      exact ⟨_, _, hrelease.emit _ rfl⟩
  | success sim =>
      rcases kept_createSystem hopen sim with ⟨ks, hcreate⟩
      exact ⟨_, _, ((hcreate.emit _ rfl).emit _ rfl).emit _ rfl⟩

end Kept

theorem kept_step (F : Framework) {w : World} (x : Ctx) (op : DriveOp)
    (hk : ∃ es h, Kept w es x h) : ∃ es h, Kept w es (driveStep F x op) h := by
  rcases hk with ⟨es, h, hk⟩
  cases op with
  | shutdown => exact kept_shutdown hk
  | call c =>
      by_cases hload : ∃ file o, c = .loadSystemModule file o
      · rcases hload with ⟨file, o, rfl⟩
        exact kept_load hk file o
      · by_cases hnull : c = .getDescription ∧ x.this.mpSystem = none
        · -- The description of a missing system only leaves its event.
          rcases hnull with ⟨rfl, hs⟩
          have hstep : driveStep F x (.call .getDescription) =
              x.emit (.nullCall "GetDescription") := by
            simp only [driveStep, step, exec, Ctx.getDescription, hs]
          rw [hstep]
          exact ⟨_, h, hk.emit _ rfl⟩
        · have hlogged : Logged x (step F x c) := by
            refine exec_logged F x c (fun file o hc => hload ⟨file, o, hc⟩) fun hc => ?_
            rw [not_and] at hnull
            exact Option.isSome_iff_ne_none.mpr (hnull hc)
          rcases hk.logged hlogged with ⟨fs, hfs⟩
          exact ⟨fs, h, hfs⟩

/-- The lifecycle of modules and systems over the operations on a device: the
    custody of its whole life up to the destructor, the two handles in every
    state reached, and what a failed load leaves. -/
structure ModuleLife (F : Framework) (x : Ctx) (ops : List DriveOp) : Prop where
  life : ∃ es, (Runs.run (driveStep F) x ops).destructor.world.trace = x.world.trace ++ es ∧
    CustodyKept es ∧ AllReturned es
  handles : Runs.Always (driveStep F) (fun y => ∀ s, y.this.mpSystem = some s →
    ∃ lib es, y.this.mhSystemImpModule = some lib ∧ y.world.trace = x.world.trace ++ es ∧
      .createSystem lib s.id ∈ es ∧ Unfreed es lib) x ops
  failed : ∀ (y : Ctx) file o, (y.loadSystemModule file o).2 = false →
    (y.loadSystemModule file o).1.this.mpSystem = none

/-- A life of custody that ends with nothing held has returned everything. -/
theorem allReturned_of_kept {w : World} {es : List Event} {x : Ctx} (hk : Kept w es x .nothing) :
    AllReturned es := by
  refine ⟨fun lib s hs => ?_, fun file h hh => ?_⟩
  · rcases hk.systems with ⟨n, hn, _⟩
    have hnodup : (makes (acts es)).Nodup := by
      rw [hn]
      exact List.nodup_range'
    rw [← drops_acts]
    exact hk.path.drop_once hnodup (mem_makes.mpr ⟨lib, make_mem_acts.mpr hs⟩)
  · rcases hk.libraries with ⟨n, hn, _⟩
    have hnodup : (takes (acts es)).Nodup := by
      rw [hn]
      exact List.nodup_range'
    rw [← gives_acts]
    exact hk.path.give_once hnodup (take_mem_acts.mpr ⟨file, hh⟩)

/-- The two handles of a device that holds a system. -/
theorem Kept.handles {w : World} {es : List Event} {x : Ctx} {h : Held Nat Nat}
    (hk : Kept w es x h) {s : SimSystem} (hs : x.this.mpSystem = some s) :
    ∃ lib, x.this.mhSystemImpModule = some lib ∧ .createSystem lib s.id ∈ es ∧ Unfreed es lib := by
  cases h with
  | nothing =>
      rw [hk.held.2] at hs
      exact absurd hs (Option.some_ne_none s).symm
  | host lib =>
      rw [hk.held.2] at hs
      exact absurd hs (Option.some_ne_none s).symm
  | guest lib r =>
      rcases hk.held with ⟨hmodule, t, ht, rfl⟩
      rw [hs, Option.some.injEq] at ht
      subst ht
      have hmade : Act.make lib s.id ∈ acts es :=
        (hk.path.made_of_guest rfl).resolve_left nofun
      refine ⟨lib, hmodule, make_mem_acts.mp hmade, ?_, fun hfreed => ?_⟩
      · -- What was given back and the one that is held are the ones that were taken.
        have hbal : takes (acts es) = gives (acts es) ++ [lib] := hk.path.hosts_balance
        rw [← take_mem_acts, hbal]
        exact List.mem_append_right _ (List.mem_singleton_self lib)
      · -- A library freed before would have been taken twice.
        have hbal : takes (acts es) = gives (acts es) ++ [lib] := hk.path.hosts_balance
        rcases hk.libraries with ⟨n, hn, _⟩
        have hnodup : (gives (acts es) ++ [lib]).Nodup := by
          rw [← hbal, hn]
          exact List.nodup_range'
        rw [← free_mem, ← gives_acts] at hfreed
        exact List.disjoint_of_nodup_append hnodup hfreed (List.mem_singleton_self lib)

/-- From its constructor on, whatever is called on a device object and however
    the loads go, its modules and systems keep the lifecycle. -/
theorem moduleLife_run (F : Framework) (self mpdev : Nat) (param : TestdriveParam) (w : World)
    (ops : List DriveOp) :
    ModuleLife F { this := TestDrive.new self mpdev, param := param, world := w } ops := by
  have hstart : ∃ es h, Kept w es
      { this := TestDrive.new self mpdev, param := param, world := w } h :=
    ⟨[], .nothing, kept_start w rfl rfl rfl⟩
  refine ⟨?_, ?_, fun y file o hfail => ?_⟩
  · rcases Runs.run_preserves (driveStep F) (kept_step F) _ ops hstart with ⟨es, h, hk⟩
    rcases kept_destructor hk with ⟨fs, hend⟩
    exact ⟨fs, hend.trace, custodyKept_of_path hend.path, allReturned_of_kept hend⟩
  · intro pre post _ s hs
    rcases Runs.run_preserves (driveStep F) (kept_step F) _ pre hstart with ⟨es, h, hk⟩
    rcases hk.handles hs with ⟨lib, hmodule, hmade, hheld⟩
    exact ⟨lib, es, hmodule, hk.trace, hmade, hheld⟩
  · have hload := load_succeeds y file o
    rw [hfail] at hload
    rw [← hload.2] at hload
    exact Option.not_isSome_iff_eq_none.mp (Bool.not_eq_true _ ▸ hload.1)

end QemuTestdrive
