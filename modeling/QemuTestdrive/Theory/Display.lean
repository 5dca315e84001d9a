import QemuTestdrive.Core.Device
import QemuTestdrive.Theory.Window

/-!
# The Display Record

`EnableDisplay` takes its sizes as an `int` and its format as a string, and
stores them in fields of 16 and 8 bits. Nothing checks a size before it is
stored. The format is checked, but only after it has been stored: an unknown one
is the enumerator `-1`, the byte holds 255, and the comparison of the two is
between an `int` that is never negative and `-1`. So with a system loaded and
two sizes that are not zero, `EnableDisplay` refuses nothing, and what it does
is `enableDisplay_loaded`, with one case for an address the binding cannot
convert.

## Main definitions

* `storedFormat`: The byte a format is stored as.
* `requestedDisplay`: The record without its buffer.
* `displayAddress`: The device address of the buffer.
* `GeometryStored`: The sizes are stored as they were given.
* `Framework.ExactTags`: The documented behaviour of the tag lookup.
* `FormatChecked`: A call accepts a known format and refuses any other.
* `LookupInBounds`: `device_realize` finds the format in its table.
* `EnablesFormat`: What a display is enabled with has a property.
* `KnownFormat`: The format is one of the list.

## Theorems

* `enableDisplay_loaded`: What the call does to a device with a system.
* `geometryStored_iff`: When the sizes are stored as they were given.
* `formatChecked_iff`: When the format is checked.
* `formatChecked_run`: The same for a run, with the lookup.
-/

namespace QemuTestdrive

/-- The byte a format argument is stored as. -/
def storedFormat (F : Framework) : LuaRef → UInt8
  | .string sFormat => UInt8.ofInt (displayFormat F (String.ofList (cStr sFormat)))
  | _ => displayFormatX8R8G8B8

/-- The display record `d` with new sizes and a new format. -/
def requestedDisplay (F : Framework) (width height : Int32) (dispFormat : LuaRef)
    (d : TestdriveDisplay) : TestdriveDisplay :=
  { d with
    width := width.toUInt32.toUInt16
    height := height.toUInt32.toUInt16
    byteStride := width.toUInt32.toUInt16 * 4
    format := storedFormat F dispFormat }

/-- The device address of the buffer, if the argument can be converted. -/
def displayAddress (F : Framework) (s : SimSystem) (dispAddress : LuaRef) : Option UInt64 :=
  if dispAddress.isNil then some s.sim.memoryBase else F.toUint64 dispAddress

/-- The methods of the system that give the pointer to it. -/
def displayMethods (dispAddress : LuaRef) : List String :=
  if dispAddress.isNil then ["GetMemoryBase", "GetMemoryPointer"] else ["GetMemoryPointer"]

section Call

variable (F : Framework) (x : Ctx)

theorem bindDisplay_eq (s : SimSystem) (addr : LuaRef) (d : TestdriveDisplay) :
    x.bindDisplay F s addr d =
      match displayAddress F s addr with
      | some a =>
          ((x.ask s (displayMethods addr)).setDisplay { d with pBuffer := s.getMemoryPointer a },
            .ok true)
      | none => (x.setDisplay d, .error .badCast) := by
  unfold Ctx.bindDisplay displayAddress displayMethods
  by_cases hnil : addr.isNil
  · simp only [if_pos hnil]
  · cases F.toUint64 addr with
    | none => simp only [if_neg hnil]
    | some a => simp only [if_neg hnil]

/-- With a system and two sizes that are not zero, the record is stored whatever
    the format is. -/
theorem enableDisplay_loaded {s : SimSystem} (hs : x.this.mpSystem = some s) {w h : Int32}
    (hw : w ≠ 0) (hh : h ≠ 0) (addr fmt : LuaRef) :
    x.enableDisplay F w h addr fmt =
      match displayAddress F s addr with
      | some a =>
          ((x.ask s (displayMethods addr)).setDisplay
            { requestedDisplay F w h fmt x.this.display with
              pBuffer := s.getMemoryPointer a }, .ok true)
      | none => (x.setDisplay (requestedDisplay F w h fmt x.this.display), .error .badCast) := by
  have hbind := bindDisplay_eq F x s addr (requestedDisplay F w h fmt x.this.display)
  rw [← hbind]
  unfold Ctx.enableDisplay
  rw [if_pos ⟨hw, hh⟩, hs]
  cases fmt with
  | string sFormat =>
      -- A byte is never negative, so the format is not refused.
      have hbyte : ¬ (((UInt8.ofInt (displayFormat F (String.ofList (cStr sFormat)))).toNat : Int) =
          displayFormatNone) := by
        unfold displayFormatNone
        omega
      simp only [if_neg hbyte]
      rfl
  | _ => rfl

/-- A call that returns true for sizes that are not zero has stored the record
    with the pointer to its address. -/
theorem enableDisplay_ok {w h : Int32} (hw : w ≠ 0) (hh : h ≠ 0) {addr fmt : LuaRef}
    (hok : (x.enableDisplay F w h addr fmt).2 = .ok true) :
    ∃ s a, x.this.mpSystem = some s ∧ displayAddress F s addr = some a ∧
      (x.enableDisplay F w h addr fmt).1.this.display =
        { requestedDisplay F w h fmt x.this.display with pBuffer := s.getMemoryPointer a } := by
  rcases hs : x.this.mpSystem with _ | s
  · unfold Ctx.enableDisplay at hok
    rw [if_pos ⟨hw, hh⟩, hs] at hok
    exact Bool.noConfusion (Except.ok.inj hok)
  · rw [enableDisplay_loaded F x hs hw hh] at hok ⊢
    rcases ha : displayAddress F s addr with _ | a
    · rw [ha] at hok
      simp only [reduceCtorEq] at hok
    · exact ⟨s, a, rfl, ha, rfl⟩

end Call

/-- The surface `device_realize` makes from a display record. -/
theorem surface_mem_iff (d : TestdriveDisplay) (w h : Int) (fmt : Option String) (stride : Nat)
    (p : HostPtr) :
    .createDisplaysurfaceFrom w h fmt stride p ∈ displayCalls d ↔
      d.pBuffer = some p ∧ w = d.width.toNat ∧ h = d.height.toNat ∧
        fmt = displayFormat2Pixman[d.format.toNat]? ∧ stride = d.byteStride.toNat := by
  unfold displayCalls
  rcases d.pBuffer with _ | q
  · exact iff_of_false List.not_mem_nil fun h => Option.some_ne_none p h.1.symm
  · simp only [List.mem_cons, List.not_mem_nil, reduceCtorEq, false_or, or_false,
      QemuCall.createDisplaysurfaceFrom.injEq, Option.some.injEq]
    constructor
    · intro h
      exact ⟨h.2.2.2.2.symm, h.1, h.2.1, h.2.2.1, h.2.2.2.1⟩
    · intro h
      exact ⟨h.2.1, h.2.2.1, h.2.2.2.1, h.2.2.2.2, h.1.symm⟩

/-- The sizes are stored as they were given, and the surface `device_realize`
    makes has them. -/
structure GeometryStored (w h : Int32) (d : TestdriveDisplay) : Prop where
  width : (d.width.toNat : Int) = w.toInt
  height : (d.height.toNat : Int) = h.toInt
  stride : (d.byteStride.toNat : Int) = 4 * w.toInt
  surface : ∀ (w' h' : Int) (fmt : Option String) (stride : Nat) (p : HostPtr),
    .createDisplaysurfaceFrom w' h' fmt stride p ∈ displayCalls d →
      w' = w.toInt ∧ h' = h.toInt ∧ 4 * w' ≤ stride

/-- An `int` stored in 16 bits. -/
theorem toNat_stored (i : Int32) : (i.toUInt32.toUInt16.toNat : Int) = i.toInt % 2 ^ 16 := by
  have hnat : i.toUInt32.toUInt16.toNat = i.toBitVec.toNat % 2 ^ 16 := UInt32.toNat_toUInt16 _
  have hint : i.toInt = _ := BitVec.toInt_eq_toNat_cond i.toBitVec
  rw [hnat, hint]
  split
  · omega
  · omega

/-- A 64-bit integer converted to an unsigned one. -/
theorem toNat_toUInt64 (i : Int64) : (i.toUInt64.toNat : Int) = i.toInt % 2 ^ 64 := by
  have hnat : i.toUInt64.toNat = i.toBitVec.toNat := rfl
  have hlt := i.toBitVec.isLt
  have hint : i.toInt = _ := BitVec.toInt_eq_toNat_cond i.toBitVec
  rw [hnat, hint]
  split
  · omega
  · omega

theorem toInt_ne_zero {i : Int32} (hi : i ≠ 0) : i.toInt ≠ 0 :=
  fun h => hi (Int32.toInt_inj.mp h)

section Geometry

variable (F : Framework) (x : Ctx)

/-- The stride, computed from the width as it is stored. -/
theorem toNat_stride (w h : Int32) (fmt : LuaRef) (d : TestdriveDisplay) :
    ((requestedDisplay F w h fmt d).byteStride.toNat : Int) = w.toInt % 2 ^ 16 * 4 % 2 ^ 16 := by
  have hmul : (w.toUInt32.toUInt16 * 4).toNat = w.toUInt32.toUInt16.toNat * 4 % 2 ^ 16 :=
    UInt16.toNat_mul _ _
  rw [← toNat_stored w]
  unfold requestedDisplay
  simp only [hmul]
  omega

/-- A call that returns true for sizes that are not zero has stored them as they
    were given exactly when the stride fits in 16 bits with the width, and the
    height on its own. -/
theorem geometryStored_iff {w h : Int32} (hw : w ≠ 0) (hh : h ≠ 0) {addr fmt : LuaRef}
    (hok : (x.enableDisplay F w h addr fmt).2 = .ok true) :
    GeometryStored w h (x.enableDisplay F w h addr fmt).1.this.display ↔
      (0 < w.toInt ∧ w.toInt < 16384) ∧ 0 < h.toInt ∧ h.toInt < 65536 := by
  rcases enableDisplay_ok F x hw hh hok with ⟨s, a, _, _, hd⟩
  rw [hd]
  have hwidth := toNat_stored w
  have hheight := toNat_stored h
  have hstride := toNat_stride F w h fmt x.this.display
  have hw0 := toInt_ne_zero hw
  have hh0 := toInt_ne_zero hh
  constructor
  · rintro ⟨hwd, hhd, hst, _⟩
    -- A stride stored right leaves a quarter of its range for the width.
    simp only [requestedDisplay] at hwd hhd hst hstride
    omega
  · rintro ⟨⟨hwpos, hwlt⟩, hhpos, hhlt⟩
    have hwd : ((requestedDisplay F w h fmt x.this.display).width.toNat : Int) = w.toInt := by
      simp only [requestedDisplay]
      omega
    have hhd : ((requestedDisplay F w h fmt x.this.display).height.toNat : Int) = h.toInt := by
      simp only [requestedDisplay]
      omega
    have hst : ((requestedDisplay F w h fmt x.this.display).byteStride.toNat : Int) =
        4 * w.toInt := by
      omega
    refine ⟨hwd, hhd, hst, fun w' h' fmt' stride p hmem => ?_⟩
    rcases (surface_mem_iff _ _ _ _ _ _).mp hmem with ⟨_, rfl, rfl, _, rfl⟩
    exact ⟨hwd, hhd, by rw [hst, hwd]⟩

end Geometry

theorem geometryStored_vga :
    GeometryStored 640 480 ((Ctx.loaded 0x80000000 0x200000).enableDisplay Framework.standard
        640 480 .nil .nil).1.this.display ↔
      (0 < (640 : Int32).toInt ∧ (640 : Int32).toInt < 16384) ∧ 0 < (480 : Int32).toInt ∧
        (480 : Int32).toInt < 65536 :=
  geometryStored_iff Framework.standard (Ctx.loaded 0x80000000 0x200000) (by decide) (by decide) rfl

/-- A width that is stored as it is, with a stride of which nothing is left. -/
theorem stride_wraps :
    ((Ctx.loaded 0x80000000 0x200000).enableDisplay Framework.standard 16384 16 .nil .nil).2 =
        .ok true ∧
      ((Ctx.loaded 0x80000000 0x200000).enableDisplay Framework.standard
        16384 16 .nil .nil).1.this.display.byteStride = 0 ∧
      ¬ GeometryStored 16384 16 ((Ctx.loaded 0x80000000 0x200000).enableDisplay
        Framework.standard 16384 16 .nil .nil).1.this.display :=
  ⟨rfl, rfl, fun h => absurd h.stride (by decide)⟩

/-- `RetrieveTag` compares whole strings, and returns the index of the tag or
    minus one. -/
def Framework.ExactTags (F : Framework) : Prop :=
  ∀ s tags, F.retrieveTag s tags = (tags.findIdx? (· == s)).elim (-1) Int.ofNat

/-- The call accepts a format of the list, which it stores as its index, and
    refuses any other. -/
structure FormatChecked (F : Framework) (x : Ctx) (w h : Int32) (addr : LuaRef)
    (sFormat : String) : Prop where
  known : (x.enableDisplay F w h addr (.string sFormat)).2 = .ok true →
    sFormat ∈ displayFormatList ∧
      (x.enableDisplay F w h addr (.string sFormat)).1.this.display.format.toNat =
        displayFormatList.idxOf sFormat ∧
      displayFormatList.idxOf sFormat < displayFormat2Pixman.length
  unknown : sFormat ∉ displayFormatList →
    (x.enableDisplay F w h addr (.string sFormat)).2 = .ok false ∧
      (x.enableDisplay F w h addr (.string sFormat)).1.this.display = TestdriveDisplay.zero

/-- `device_realize` finds the format of the display in its table. -/
def LookupInBounds (x : Ctx) : Prop :=
  ∀ (w h : Int) (fmt : Option String) (stride : Nat) (p : HostPtr),
    .createDisplaysurfaceFrom w h fmt stride p ∈ displayCalls x.this.display → fmt.isSome

/-- A display is enabled, on a device with a system and with sizes that are not
    zero, only for a format `P` holds of. -/
def EnablesFormat (P : Int32 → Int32 → LuaRef → String → Prop) (x : Ctx) : DriveOp → Prop
  | .call (.enableDisplay w h addr (.string sFormat)) =>
      w ≠ 0 → h ≠ 0 → x.this.mpSystem.isSome → P w h addr sFormat
  | _ => True

/-- The format is one of the list. -/
def KnownFormat (x : Ctx) : DriveOp → Prop :=
  EnablesFormat (fun _ _ _ sFormat => sFormat ∈ displayFormatList) x

section Formats

variable (F : Framework)

theorem displayFormat_index (htag : F.ExactTags) {sFormat : String}
    (hmem : sFormat ∈ displayFormatList) :
    displayFormat F sFormat = displayFormatList.idxOf sFormat := by
  unfold displayFormat
  rw [htag, List.findIdx?_eq_some_of_exists (p := fun t => t == sFormat)
    ⟨sFormat, hmem, beq_self_eq_true sFormat⟩]
  rfl

/-- The names of the list have no NUL, so they reach the lookup as they are. -/
theorem cStr_of_mem {sFormat : String} (hmem : sFormat ∈ displayFormatList) :
    String.ofList (cStr sFormat) = sFormat := by
  have hall : ∀ t ∈ displayFormatList, String.ofList (cStr t) = t := by decide
  exact hall sFormat hmem

theorem storedFormat_index (htag : F.ExactTags) {sFormat : String}
    (hmem : sFormat ∈ displayFormatList) :
    (storedFormat F (.string sFormat)).toNat = displayFormatList.idxOf sFormat ∧
      displayFormatList.idxOf sFormat < displayFormat2Pixman.length := by
  have hlt : displayFormatList.idxOf sFormat < 13 := List.idxOf_lt_length_iff.mpr hmem
  unfold storedFormat
  simp only
  rw [cStr_of_mem hmem, displayFormat_index F htag hmem]
  have hbyte : ∀ n : Nat, n < 13 → (UInt8.ofInt n).toNat = n := by decide
  exact ⟨hbyte _ hlt, hlt⟩

/-- A call checks its format exactly when the format is one of the list. -/
theorem formatChecked_iff (htag : F.ExactTags) (x : Ctx) {w h : Int32} (hw : w ≠ 0) (hh : h ≠ 0)
    (hs : x.this.mpSystem.isSome) (addr : LuaRef) (sFormat : String) :
    FormatChecked F x w h addr sFormat ↔ sFormat ∈ displayFormatList := by
  constructor
  · intro h
    by_contra hnot
    rcases h.unknown hnot with ⟨hfalse, _⟩
    -- With a system, the call returns true or raises an exception.
    rcases Option.isSome_iff_exists.mp hs with ⟨s, hs⟩
    rw [enableDisplay_loaded F x hs hw hh] at hfalse
    split at hfalse
    · exact Bool.noConfusion (Except.ok.inj hfalse)
    · simp only [reduceCtorEq] at hfalse
  · intro hmem
    refine ⟨fun hok => ?_, fun hnot => absurd hmem hnot⟩
    rcases enableDisplay_ok F x hw hh hok with ⟨s, a, _, _, hd⟩
    rw [hd]
    exact ⟨hmem, storedFormat_index F htag hmem⟩

theorem lookupInBounds_iff (x : Ctx) :
    LookupInBounds x ↔ (x.this.display.pBuffer.isSome →
      x.this.display.format.toNat < displayFormat2Pixman.length) := by
  constructor
  · intro h hsome
    rcases Option.isSome_iff_exists.mp hsome with ⟨p, hp⟩
    have hfmt := h _ _ _ _ p ((surface_mem_iff _ _ _ _ _ _).mpr ⟨hp, rfl, rfl, rfl, rfl⟩)
    rw [isSome_getElem?] at hfmt
    exact hfmt
  · intro h w h' fmt stride p hmem
    rcases (surface_mem_iff _ _ _ _ _ _).mp hmem with ⟨hp, _, _, rfl, _⟩
    rw [isSome_getElem?]
    exact h (by rw [hp]; rfl)

/-- Every call but `EnableDisplay` leaves the display record alone. -/
theorem effect_display {x y : Ctx} {c : ScriptCall} {r : CallResult} (he : Effect F x c y r)
    (hc : ∀ w h addr fmt, c ≠ .enableDisplay w h addr fmt) :
    y.this.display = x.this.display := by
  cases he with
  | quiet hq _ => rw [hq.this]
  | reset => rfl
  | added hq => rw [← hq.this]; rfl
  | msi _ _ hq => rw [hq.this]; rfl
  | msix _ _ _ _ hq => rw [hq.this]; rfl
  | display d _ _ => exact absurd rfl (hc _ _ _ _)
  | load file o => exact (sameDevice_load x file o).display

/-- A display enabled for a known format, or for none at all, leaves a format
    that is in the table. -/
theorem lookup_enableDisplay (x : Ctx) (w h : Int32) (addr fmt : LuaRef) (hl : LookupInBounds x)
    (hfmt : (storedFormat F fmt).toNat < displayFormat2Pixman.length ∨ w = 0 ∨ h = 0 ∨
      x.this.mpSystem = none) :
    LookupInBounds (x.enableDisplay F w h addr fmt).1 := by
  by_cases hsize : w ≠ 0 ∧ h ≠ 0
  · rcases hs : x.this.mpSystem with _ | s
    · -- Without a system the call returns before it stores anything.
      have hkept : (x.enableDisplay F w h addr fmt).1.this = x.this := by
        unfold Ctx.enableDisplay
        rw [if_pos hsize, hs]
        rfl
      rw [lookupInBounds_iff, hkept, ← lookupInBounds_iff]
      exact hl
    · have hlt : (storedFormat F fmt).toNat < displayFormat2Pixman.length := by
        rcases hfmt with hlt | hw | hh | hnone
        · exact hlt
        · exact absurd hw hsize.1
        · exact absurd hh hsize.2
        · exact absurd (hs.symm.trans hnone) (Option.some_ne_none s)
      rw [lookupInBounds_iff, enableDisplay_loaded F x hs hsize.1 hsize.2]
      intro _
      split
      · exact hlt
      · exact hlt
  · -- One of the sizes is zero, and the record is cleared.
    unfold Ctx.enableDisplay
    rw [if_neg hsize, lookupInBounds_iff]
    intro hbuffer
    exact absurd hbuffer Bool.false_ne_true

theorem lookup_step (htag : F.ExactTags) (x : Ctx) (op : DriveOp) (hl : LookupInBounds x)
    (hop : KnownFormat x op) : LookupInBounds (driveStep F x op) := by
  have hsame : ∀ y : Ctx, y.this.display = x.this.display → LookupInBounds y := by
    intro y hy
    rw [lookupInBounds_iff, hy, ← lookupInBounds_iff]
    exact hl
  have hcall : ∀ c : ScriptCall, (∀ w h addr fmt, c ≠ .enableDisplay w h addr fmt) →
      LookupInBounds (driveStep F x (.call c)) :=
    fun c hc => hsame _ (effect_display F (exec_effect F x c) hc)
  cases op with
  | shutdown => exact hsame _ (sameDevice_shutdown x).display
  | call c =>
      cases c with
      | enableDisplay w h addr fmt =>
          -- A format that is no string is the default one, which is in the table.
          have hdefault : displayFormatX8R8G8B8.toNat < displayFormat2Pixman.length := by decide
          refine lookup_enableDisplay F x w h addr fmt hl ?_
          cases fmt with
          | string sFormat =>
              by_cases hw : w = 0
              · exact Or.inr (Or.inl hw)
              by_cases hh : h = 0
              · exact Or.inr (Or.inr (Or.inl hh))
              rcases hs : x.this.mpSystem with _ | s
              · exact Or.inr (Or.inr (Or.inr rfl))
              · have hmem : sFormat ∈ displayFormatList := hop hw hh (by rw [hs]; rfl)
                rcases storedFormat_index F htag hmem with ⟨hindex, hlt⟩
                exact Or.inl (by rw [hindex]; exact hlt)
          | _ => exact Or.inl hdefault
      | _ => exact hcall _ fun _ _ _ _ h => ScriptCall.noConfusion h

/-- Along the run of a new device, every call checks its format and the lookup
    is in bounds in every state reached, exactly when the formats are those of
    the list. -/
theorem formatChecked_run (htag : F.ExactTags) (p : Process) (d : Nat) (ops : List DriveOp) :
    (Runs.Each (driveStep F) (fun x => EnablesFormat (FormatChecked F x) x) (p.scriptStart d) ops ∧
        Runs.Always (driveStep F) LookupInBounds (p.scriptStart d) ops) ↔
      Runs.Each (driveStep F) KnownFormat (p.scriptStart d) ops := by
  have hagree : ∀ (x : Ctx) (op : DriveOp), True →
      (EnablesFormat (FormatChecked F x) x op ↔ KnownFormat x op) := by
    intro x op _
    unfold KnownFormat EnablesFormat
    split
    · rename_i w h addr sFormat
      constructor
      · intro hc hw hh hs
        exact (formatChecked_iff F htag x hw hh hs addr sFormat).mp (hc hw hh hs)
      · intro hmem hw hh hs
        exact (formatChecked_iff F htag x hw hh hs addr sFormat).mpr (hmem hw hh hs)
    · exact Iff.rfl
  have hequiv := Runs.each_congr (driveStep F) (I := fun _ => True) (fun _ _ _ => trivial) hagree
    (p.scriptStart d) ops trivial
  rw [hequiv]
  refine and_iff_left_of_imp fun hknown => ?_
  -- A new device has no buffer, and known formats keep the lookup in bounds from there.
  have hstart : LookupInBounds (p.scriptStart d) :=
    (lookupInBounds_iff _).mpr fun hbuffer => absurd hbuffer Bool.false_ne_true
  exact Runs.always_of_each (driveStep F) (lookup_step F htag) ops _ hstart hknown

end Formats

/-- A device that loads a module and enables a display in a known format. -/
def enableKnown : List DriveOp :=
  [.call (.loadSystemModule "module" (.success (ISystemSim.flat 0x80000000 0x200000 0x1000))),
    .call (.enableDisplay 640 480 .nil (.string "R5G6B5"))]

theorem formatChecked_run_enableKnown :
    (Runs.Each (driveStep Framework.standard)
          (fun x => EnablesFormat (FormatChecked Framework.standard x) x)
          (Process.start.scriptStart 0) enableKnown ∧
        Runs.Always (driveStep Framework.standard) LookupInBounds (Process.start.scriptStart 0)
          enableKnown) ↔
      Runs.Each (driveStep Framework.standard) KnownFormat (Process.start.scriptStart 0)
        enableKnown :=
  formatChecked_run Framework.standard (fun _ _ => rfl) Process.start 0 enableKnown

/-- A format that is not in the list is accepted, and looked up past the end of
    the table. -/
theorem unknown_format_accepted :
    "YUYV" ∉ displayFormatList ∧
      ((Ctx.loaded 0x80000000 0x200000).enableDisplay Framework.standard 640 480 .nil
        (.string "YUYV")).2 = .ok true ∧
      ¬ FormatChecked Framework.standard (Ctx.loaded 0x80000000 0x200000) 640 480 .nil "YUYV" ∧
      ¬ LookupInBounds ((Ctx.loaded 0x80000000 0x200000).enableDisplay Framework.standard 640 480
        .nil (.string "YUYV")).1 := by
  have hnot : "YUYV" ∉ displayFormatList := by decide
  refine ⟨hnot, by decide, fun h => ?_, fun h => ?_⟩
  · exact hnot (h.known (by decide)).1
  · exact absurd ((lookupInBounds_iff _).mp h (by decide)) (by decide)

end QemuTestdrive
