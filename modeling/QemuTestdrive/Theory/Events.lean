import QemuTestdrive.Theory.Effects

/-!
# What a Script Call Leaves in the Trace

`Effect` says what a call does to the device and the parameters, and little
about the trace. Most calls add messages to it and ask the loaded system for
something, and leave that system as it is. `Logged` says so, and `exec_logged`
that the load and the description of a missing system are the only calls that do
more.

For `CreateBAR` the messages themselves matter: those of the two decodings come
first, those about the BAR follow, and the questions to the system come last.

## Main definitions

* `Event.message`: The event of a message.
* `Event.Told`: A message, or a question to the system.
* `Logged`: Only such events have been added, for the same loaded system.

## Theorems

* `logs_eq`: Logging appends the messages.
* `askPointer_eq`: Asking for a pointer appends the questions.
* `exec_logged`: What every other call does to the trace.
* `createBAR_trace`: What a successful `CreateBAR` adds.
-/

namespace QemuTestdrive

/-- The event of a message. -/
def Event.message (l : LogMode × String) : Event :=
  .log l.1 l.2

/-- A message, or a method called on the system `sys`, if there is one. -/
inductive Event.Told (sys : Option SimSystem) : Event → Prop where
  | message (l : LogMode × String) : Event.Told sys (.message l)
  | asked {s : SimSystem} (hs : sys = some s) (method : String) :
      Event.Told sys (.systemCall s.id method)

/-- `y` has the same loaded system as `x`, and messages and questions to that system
    have been added. -/
structure Logged (x y : Ctx) : Prop where
  mpSystem : y.this.mpSystem = x.this.mpSystem
  mhSystemImpModule : y.this.mhSystemImpModule = x.this.mhSystemImpModule
  libraries : y.world.libraries = x.world.libraries
  systems : y.world.systems = x.world.systems
  trace : ∃ es, y.world.trace = x.world.trace ++ es ∧ ∀ e ∈ es, e.Told x.this.mpSystem

theorem Logged.refl (x : Ctx) : Logged x x :=
  ⟨rfl, rfl, rfl, rfl, [], (List.append_nil _).symm, fun _ he => absurd he List.not_mem_nil⟩

theorem Logged.trans {x y z : Ctx} (h1 : Logged x y) (h2 : Logged y z) : Logged x z := by
  rcases h1.trace with ⟨es, hes, hall⟩
  rcases h2.trace with ⟨fs, hfs, hall'⟩
  refine ⟨h2.mpSystem.trans h1.mpSystem, h2.mhSystemImpModule.trans h1.mhSystemImpModule,
    h2.libraries.trans h1.libraries, h2.systems.trans h1.systems, es ++ fs, ?_, fun e he => ?_⟩
  · rw [hfs, hes, List.append_assoc]
  · rcases List.mem_append.mp he with hmem | hmem
    · exact hall e hmem
    · exact h1.mpSystem ▸ hall' e hmem

/-- Logging appends the messages, one after the other. -/
theorem logs_eq (x : Ctx) (ls : List (LogMode × String)) :
    x.logs ls = { x with world := { x.world with
      trace := x.world.trace ++ ls.map Event.message } } := by
  induction ls generalizing x with
  | nil => rw [Ctx.logs, List.map_nil, List.append_nil]
  | cons l ls ih =>
      rw [Ctx.logs, ih, List.map_cons]
      simp only [Ctx.log, Ctx.emit, World.emit, List.append_assoc, List.cons_append,
        List.nil_append]
      rfl

theorem logged_logs (x : Ctx) (ls : List (LogMode × String)) : Logged x (x.logs ls) := by
  rw [logs_eq]
  refine ⟨rfl, rfl, rfl, rfl, _, rfl, fun e he => ?_⟩
  rcases List.mem_map.mp he with ⟨l, _, rfl⟩
  exact .message l

theorem logged_log (x : Ctx) (mode : LogMode) (text : String) : Logged x (x.log mode text) :=
  logged_logs x [(mode, text)]

theorem logged_ask {x : Ctx} {s : SimSystem} (hs : x.this.mpSystem = some s)
    (methods : List String) : Logged x (x.ask s methods) := by
  refine ⟨rfl, rfl, rfl, rfl, _, rfl, fun e he => ?_⟩
  rcases List.mem_map.mp he with ⟨method, _, rfl⟩
  exact .asked hs method

/-- The questions to the system on the way to a pointer. -/
def pointerCalls (sys : Option SimSystem) (bindAddress byteSize : UInt64) : List Event :=
  sys.elim [] fun s => (pointerMethods s bindAddress byteSize).map (.systemCall s.id)

/-- A message is no question. -/
theorem message_notMem_pointerCalls (l : LogMode × String) (sys : Option SimSystem)
    (bindAddress byteSize : UInt64) : .message l ∉ pointerCalls sys bindAddress byteSize := by
  intro h
  rcases sys with _ | s
  · exact absurd h List.not_mem_nil
  · rcases List.mem_map.mp h with ⟨method, _, heq⟩
    exact Event.noConfusion heq

theorem askPointer_eq (x : Ctx) (a size : UInt64) :
    x.askPointer a size = { x with world := { x.world with
      trace := x.world.trace ++ pointerCalls x.this.mpSystem a size } } := by
  unfold Ctx.askPointer pointerCalls
  rcases x.this.mpSystem with _ | s
  · simp only [Option.elim_none, List.append_nil]
  · rfl

theorem logged_askPointer (x : Ctx) (a size : UInt64) : Logged x (x.askPointer a size) := by
  unfold Ctx.askPointer
  rcases hs : x.this.mpSystem with _ | s
  · exact Logged.refl x
  · exact logged_ask hs _

section Calls

variable (F : Framework) (x : Ctx)

theorem logged_addBAR (bar : TestdrivePciBar) : Logged x (x.addBAR bar).1 := by
  unfold Ctx.addBAR
  split
  · exact logged_log x _ _
  · -- Placing the BAR touches neither the system nor the world.
    have hlogs := (logged_logs x (barMessages bar)).trans
      (logged_askPointer _ bar.bindAddress (correctedSize bar.byteSize))
    exact ⟨hlogs.mpSystem, hlogs.mhSystemImpModule, hlogs.libraries, hlogs.systems, hlogs.trace⟩

theorem logged_createBAR (t : Option String) (size addr b64 pf : LuaRef) :
    Logged x (x.createBAR F t size addr b64 pf).1 := by
  cases t with
  | none =>
      exact ⟨rfl, rfl, rfl, rfl, [], (List.append_nil _).symm,
        fun _ he => absurd he List.not_mem_nil⟩
  | some sType =>
      unfold Ctx.createBAR
      simp only
      split
      · exact logged_log x _ _
      · rcases LuaInt64.GET F size with ⟨ls, es | s⟩
        · exact logged_logs x ls
        · rcases LuaInt64.GET F addr with ⟨la, ea | a⟩
          · exact (logged_logs x ls).trans (logged_logs _ la)
          · exact ((logged_logs x ls).trans (logged_logs _ la)).trans (logged_addBAR _ _)

theorem logged_setInterrupt (i : Interrupt) : Logged x (x.setInterrupt i) :=
  ⟨rfl, rfl, rfl, rfl, [], (List.append_nil _).symm, fun _ he => absurd he List.not_mem_nil⟩

theorem logged_setDisplay (d : TestdriveDisplay) : Logged x (x.setDisplay d) :=
  ⟨rfl, rfl, rfl, rfl, [], (List.append_nil _).symm, fun _ he => absurd he List.not_mem_nil⟩

theorem logged_enableMSI (n : Int32) (mask : Bool) : Logged x (x.enableMSI n mask).1 := by
  unfold Ctx.enableMSI
  simp only
  split
  · exact logged_log x _ _
  · exact (logged_setInterrupt x _).trans (logged_log _ _ _)

theorem logged_enableMSIX (n : Int32) (mask : Bool) (iBar offT offP : UInt32) :
    Logged x (x.enableMSIX n mask iBar offT offP).1 := by
  unfold Ctx.enableMSIX
  simp only
  split
  · exact logged_log x _ _
  · split
    · exact logged_log x _ _
    · split
      · exact logged_log x _ _
      · exact (logged_setInterrupt x _).trans (logged_log _ _ _)

theorem logged_bindDisplay {s : SimSystem} (hs : x.this.mpSystem = some s) (addr : LuaRef)
    (d : TestdriveDisplay) : Logged x (x.bindDisplay F s addr d).1 := by
  unfold Ctx.bindDisplay
  split
  · exact (logged_ask hs _).trans (logged_setDisplay _ _)
  · split
    · exact (logged_ask hs _).trans (logged_setDisplay _ _)
    · exact logged_setDisplay x _

theorem logged_enableDisplay (w h : Int32) (addr fmt : LuaRef) :
    Logged x (x.enableDisplay F w h addr fmt).1 := by
  unfold Ctx.enableDisplay
  split
  · split
    · exact logged_log x _ _
    · rename_i s hs
      simp only
      split
      · split
        · exact (logged_log x _ _).trans (logged_setDisplay _ _)
        · exact logged_bindDisplay F x hs _ _
      · exact logged_bindDisplay F x hs _ _
  · exact logged_setDisplay x _

/-- Every call but a load and the description of a missing system adds messages
    and questions to the system, and nothing else. -/
theorem exec_logged (c : ScriptCall) (hload : ∀ file o, c ≠ .loadSystemModule file o)
    (hdescription : c = .getDescription → x.this.mpSystem.isSome) : Logged x (step F x c) := by
  cases c with
  | createBAR t size addr b64 pf => exact logged_createBAR F x t size addr b64 pf
  | enableMSI n mask => exact logged_enableMSI x n mask
  | enableMSIX n mask iBar offT offP => exact logged_enableMSIX x n mask iBar offT offP
  | enableDisplay w h addr fmt => exact logged_enableDisplay F x w h addr fmt
  | loadSystemModule file o => exact absurd rfl (hload file o)
  | getDescription =>
      rcases Option.isSome_iff_exists.mp (hdescription rfl) with ⟨s, hs⟩
      unfold step
      simp only [exec, Ctx.getDescription, hs]
      exact logged_ask hs _
  | getMemoryBase =>
      simp only [step, exec, Ctx.getMemoryBase]
      split
      · exact logged_ask ‹_› _
      · exact Logged.refl x
  | getMemorySize =>
      simp only [step, exec, Ctx.getMemorySize]
      split
      · exact logged_ask ‹_› _
      · exact Logged.refl x

/-- What a successful `CreateBAR` adds: the messages of the decodings, those about the
    BAR, and the questions to the system. -/
theorem createBAR_trace {sType : String} {size addr : LuaRef} {s a : UInt64} (b64 pf : LuaRef)
    (hsize : Decodes F size s) (haddr : Decodes F addr a)
    (hok : (x.createBAR F (some sType) size addr b64 pf).2 = .ok true) :
    (x.createBAR F (some sType) size addr b64 pf).1.world.trace =
      x.world.trace ++ ((LuaInt64.GET F size).1 ++ (LuaInt64.GET F addr).1 ++
        barMessages (x.requested F sType s a b64 pf)).map Event.message ++
        pointerCalls x.this.mpSystem a (correctedSize s) := by
  unfold Decodes at hsize haddr
  unfold Ctx.createBAR at hok ⊢
  simp only at hok ⊢
  split at hok
  · exact Bool.noConfusion (Except.ok.inj hok)
  · rename_i htype
    rcases hgs : LuaInt64.GET F size with ⟨ls, rs⟩
    rcases hga : LuaInt64.GET F addr with ⟨la, ra⟩
    rw [hgs] at hsize
    rw [hga] at haddr
    simp only at hsize haddr
    subst hsize haddr
    -- Both values decode, so the call goes as far as looking for a slot.
    simp only [hgs, hga, Ctx.addBAR, if_neg htype] at hok ⊢
    split at hok
    · exact Bool.noConfusion (Except.ok.inj hok)
    · rename_i hfit
      rw [if_neg hfit]
      simp only [logs_eq, askPointer_eq, Ctx.placeBAR, Ctx.requested, List.map_append,
        List.append_assoc]
      rfl

end Calls

end QemuTestdrive
