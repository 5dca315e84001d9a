import QemuTestdrive.Theory.InterruptConfig
import QemuTestdrive.Theory.SizeCorrection

/-!
# Handing the Configuration to QEMU

What the calls of `device_realize` look like for a configuration a script has
built, and whether QEMU takes them.

`mem_setupBARs` describes the BAR loop: under the slot invariant it makes one
pair of calls for each BAR in the map and no other. With it the two questions of
this module become questions about the map and the settings.

An enabled MSI-X names a BAR, which `EnableMSIX` has checked. `CreateBAR(nil)`
can remove that BAR afterwards, and nothing else can, so the reset is the one
step to watch.

QEMU asserts that a BAR's size is a power of two and that an MSI vector count is
one as well, and it takes the size of a BAR that is not a 64-bit memory BAR
through a 32-bit mask. The script operations round sizes up, but they leave a
size of zero alone and do not look at the address width, and they let every
count below 32 pass.

## Main definitions

* `MsixBarPresent`: The BAR of an enabled MSI-X is there and initialised.
* `ResetAllowed`: A step that does not remove the BARs under an enabled MSI-X.
* `QemuCall.Accepted`: A call that meets what QEMU asserts.
* `Registrable`: Every call of `device_realize` does.
* `RegistrableCall`: A script call that keeps it so.

## Theorems

* `mem_setupBARs`: The calls of the BAR loop.
* `msixBarPresent_iff`: When an enabled MSI-X keeps its BAR.
* `finalBAR_registrable_iff`: When QEMU takes a new BAR.
* `registrable_iff`: When QEMU takes every configuration of a script.
-/

namespace QemuTestdrive

/-- Under the slot invariant the BAR loop makes one pair of calls for each BAR
    in the map. -/
theorem mem_setupBARs {x : Ctx} (h : SlotInv x) (call : QemuCall) :
    call ∈ setupBARs x.deref x.param ↔
      ∃ i bar, x.this.mBARs.lookup i = some bar ∧
        call ∈ barCalls { owner := x.this.self, key := i } bar := by
  unfold setupBARs
  rw [List.mem_flatMap]
  constructor
  · rintro ⟨i, _, hcall⟩
    rw [h.table i] at hcall
    by_cases hmem : i ∈ x.this.mBARs
    · rcases Option.isSome_iff_exists.mp (AList.lookup_isSome.mpr hmem) with ⟨bar, hbar⟩
      refine ⟨i, bar, hbar, ?_⟩
      simpa only [if_pos hmem, setupBAR, Ctx.deref, if_true, hbar] using hcall
    · rw [if_neg hmem] at hcall
      exact absurd hcall List.not_mem_nil
  · rintro ⟨i, bar, hbar, hcall⟩
    have hmem : i ∈ x.this.mBARs := AList.lookup_isSome.mp (by rw [hbar]; rfl)
    -- Every key is below six, so the loop comes past it.
    have hlt := h.packed.start_lt (mem_barBlocks hbar) (slots_pos bar)
    have hsix := h.within
    refine ⟨i, List.mem_range.mpr (by omega), ?_⟩
    rw [h.table i, if_pos hmem]
    simpa only [setupBAR, Ctx.deref, if_true, hbar] using hcall

/-- If MSI-X is enabled, its BAR is one of the six, the table has it, and the
    BAR loop initialises its region. -/
def MsixBarPresent (x : Ctx) : Prop :=
  x.param.interrupt.extend.bEnable = true →
    x.param.interrupt.extend.iBar ≤ 5 ∧
      (x.param.bar x.param.interrupt.extend.iBar.toNat).isSome ∧
      ∃ p name size, .memoryRegionInitIo x.param.interrupt.extend.iBar.toNat p name size ∈
        setupBARs x.deref x.param

/-- A reset of the BARs is taken only while MSI-X is not enabled. -/
def ResetAllowed (x : Ctx) (c : ScriptCall) : Prop :=
  ∀ size addr b64 pf, c = .createBAR none size addr b64 pf →
    x.param.interrupt.extend.bEnable = false

/-- A BAR in the table is initialised by the BAR loop. -/
theorem region_initialised {x : Ctx} (h : SlotInv x) {i : Nat}
    (hsome : (x.param.bar i).isSome) :
    ∃ p name size, .memoryRegionInitIo i p name size ∈ setupBARs x.deref x.param := by
  have hmem : i ∈ x.this.mBARs := (h.barSlots.nonNull i).mp hsome
  rcases Option.isSome_iff_exists.mp (AList.lookup_isSome.mpr hmem) with ⟨bar, hbar⟩
  refine ⟨{ owner := x.this.self, key := i }, bar.name, bar.byteSize,
    (mem_setupBARs h _).mpr ⟨i, bar, hbar, ?_⟩⟩
  rw [barCalls, h.ids i bar hbar]
  exact List.mem_cons_self

/-- The BAR of MSI-X is kept by a step from `x` to `y` that leaves the MSI-X
    settings and every table entry there was. -/
theorem MsixBarPresent.keep {x y : Ctx} (hx : MsixBarPresent x) (hy : SlotInv y)
    (hext : y.param.interrupt.extend = x.param.interrupt.extend)
    (hbar : ∀ i, (x.param.bar i).isSome → (y.param.bar i).isSome) : MsixBarPresent y := by
  intro hen
  rw [hext] at hen ⊢
  -- The BAR loop runs on the new state, so its calls are found again there.
  rcases hx hen with ⟨h5, hsome, _⟩
  exact ⟨h5, hbar _ hsome, region_initialised hy (hbar _ hsome)⟩

theorem reset_returns_true (F : Framework) (x : Ctx) (size addr b64 pf : LuaRef) :
    (exec F x (.createBAR none size addr b64 pf)).2 = .returned true := rfl

/-- A step keeps the BAR of MSI-X exactly when it is not a reset under an
    enabled MSI-X. -/
theorem msixBarPresent_step (F : Framework) (x : Ctx) (c : ScriptCall) (h : SlotInv x)
    (hx : MsixBarPresent x) : MsixBarPresent (step F x c) ↔ ResetAllowed x c := by
  have he := exec_effect F x c
  have hy : SlotInv (step F x c) := slotInv_step F x c h
  unfold step at hy ⊢
  generalize hr : (exec F x c).2 = r at he
  generalize (exec F x c).1 = y at he hy
  cases he with
  | quiet hq hne =>
      refine iff_of_true (hx.keep hy (by rw [hq.param]) fun i hi => by rw [hq.param]; exact hi) ?_
      -- A reset always returns true, so it is not this case.
      rintro size addr b64 pf rfl
      exact absurd (hr.symm.trans (reset_returns_true F x size addr b64 pf)) hne
  | reset size addr b64 pf =>
      constructor
      · intro hpres _ _ _ _ _
        by_contra hen
        rw [Bool.not_eq_false] at hen
        -- MSI-X would stay enabled, and the table is empty.
        have hsome := (hpres hen).2.1
        simp only [Ctx.resetBARs, Option.isSome_none, Bool.false_eq_true] at hsome
      · intro hallow hen
        have hoff := hallow size addr b64 pf rfl
        have hsame : x.param.interrupt.extend.bEnable = true := hen
        rw [hoff] at hsame
        exact Bool.noConfusion hsame
  | added hq =>
      refine iff_of_true (hx.keep hy (by rw [← hq.param]; rfl) fun i hi => ?_)
        fun _ _ _ _ hc => by simp only [ScriptCall.createBAR.injEq, reduceCtorEq, false_and] at hc
      simp only [Ctx.placeBAR, TestdriveParam.setBar, hq.param]
      split
      · rfl
      · exact hi
  | msi h0 h32 hq =>
      refine iff_of_true (fun hen => ?_) fun _ _ _ _ hc => ScriptCall.noConfusion hc
      -- `EnableMSI` turns MSI-X off.
      rw [hq.param] at hen
      exact Bool.noConfusion hen
  | @msix _ n mask iBar offT offP h5 hbar h0 h2048 hq =>
      refine iff_of_true (fun _ => ?_) fun _ _ _ _ hc => ScriptCall.noConfusion hc
      -- `EnableMSIX` has just checked the BAR it names.
      have hib : y.param.interrupt.extend.iBar = iBar := by rw [hq.param]; rfl
      have hsome : (y.param.bar iBar.toNat).isSome := by rw [hq.param]; exact hbar
      rw [hib]
      exact ⟨UInt32.not_lt.mp h5, hsome, region_initialised hy hsome⟩
  | display d _ hq =>
      exact iff_of_true (hx.keep hy (by rw [hq.param]; rfl) fun i hi => by rw [hq.param]; exact hi)
        fun _ _ _ _ hc => ScriptCall.noConfusion hc
  | load file o =>
      have hs := sameDevice_load x file o
      exact iff_of_true (hx.keep hy (by rw [hs.param]) fun i hi => by rw [hs.param]; exact hi)
        fun _ _ _ _ hc => ScriptCall.noConfusion hc

/-- Along a script that starts from the initial configuration, an enabled MSI-X
    has its BAR in every state reached exactly when no reset of the BARs is made
    while MSI-X is enabled. -/
theorem msixBarPresent_iff (F : Framework) (x : Ctx) (hbars : x.this.mBARs = ∅)
    (hzero : x.param = TestdriveParam.zero) (calls : List ScriptCall) :
    Runs.Always (step F) MsixBarPresent x calls ↔ Runs.Each (step F) ResetAllowed x calls := by
  refine Runs.always_iff_each (step F) (fun y c => slotInv_step F y c)
    (fun y c => msixBarPresent_step F y c) calls x
    (slotInv_empty hbars fun i => by rw [hzero]; rfl) ?_
  intro hen
  rw [hzero] at hen
  exact Bool.noConfusion hen

theorem msixBarPresent_msix16 :
    Runs.Always (step Framework.standard) MsixBarPresent Ctx.start (msixScript 16) ↔
      Runs.Each (step Framework.standard) ResetAllowed Ctx.start (msixScript 16) :=
  msixBarPresent_iff Framework.standard Ctx.start rfl rfl (msixScript 16)

/-- A reset after `EnableMSIX` leaves MSI-X enabled on a BAR that is gone. -/
theorem msixBar_missing_after_reset :
    ¬ MsixBarPresent (Runs.run (step Framework.standard) Ctx.start
      (msixScript 16 ++ [.createBAR none .nil .nil .nil .nil])) := by
  intro h
  exact absurd (h rfl).2.1 (by decide)

/-- What QEMU asserts of the calls it gets. A BAR that is not a 64-bit memory
    BAR has its size taken through a 32-bit mask. -/
def QemuCall.Accepted : QemuCall → Prop
  | .pciRegisterBar _ attr size =>
      (∃ k, size.toNat = 2 ^ k) ∧ (size.toNat < 2 ^ 32 ∨ (attr &&& 1 = 0 ∧ attr &&& 4 ≠ 0))
  | .msiInit _ nrVectors _ _ => ∃ k, k ≤ 5 ∧ nrVectors = 2 ^ k
  | .danglingBar _ => False
  | _ => True

/-- Every call of a following `device_realize` meets what QEMU asserts. -/
def Registrable (x : Ctx) : Prop :=
  ∀ call ∈ setupBARs x.deref x.param ++ interruptCalls x.param.interrupt, call.Accepted

/-- An accepted `CreateBAR` asks for a size that is not zero, and for at most
    2 GiB unless the BAR is a 64-bit memory BAR; an accepted `EnableMSI` asks for
    no vectors or for a power of two of them. -/
def RegistrableCall (F : Framework) (x : Ctx) : ScriptCall → Prop
  | .createBAR (some sType) size addr b64 _ =>
      ∀ s a, 0 ≤ F.retrieveTag sType addressSpaceType → Decodes F size s → Decodes F addr a →
        x.slotsTaken + (if b64.flag F then 2 else 1) ≤ 6 →
        s ≠ 0 ∧ (s.toNat ≤ 2 ^ 31 ∨
          (F.retrieveTag sType addressSpaceType % 2 = 1 ∧ b64.flag F = true))
  | .enableMSI n _ =>
      0 ≤ n.toInt → n.toInt < 32 → n.toInt = 0 ∨ ∃ k, k ≤ 5 ∧ n.toInt.toNat = 2 ^ k
  | _ => True

/-- A BAR that QEMU takes. -/
def TestdrivePciBar.Registrable (bar : TestdrivePciBar) : Prop :=
  (∃ k, bar.byteSize.toNat = 2 ^ k) ∧
    (bar.byteSize.toNat < 2 ^ 32 ∨ (bar.option.barType = true ∧ bar.option.b64bit = true))

/-- The attribute bits of a 64-bit memory BAR. -/
theorem barAttr_memory64 (bar : TestdrivePciBar) :
    (barAttr bar &&& 1 = 0 ∧ barAttr bar &&& 4 ≠ 0) ↔
      (bar.option.barType = true ∧ bar.option.b64bit = true) := by
  unfold barAttr
  cases bar.option.barType <;> cases bar.option.b64bit <;> cases bar.option.bPrefetchable <;> decide

/-- Under the slot invariant, QEMU takes the configuration when it takes every
    BAR in the map and the interrupt setup. -/
theorem registrable_split {x : Ctx} (h : SlotInv x) :
    Registrable x ↔
      (∀ i bar, x.this.mBARs.lookup i = some bar → bar.Registrable) ∧
        ∀ call ∈ interruptCalls x.param.interrupt, call.Accepted := by
  constructor
  · intro hreg
    refine ⟨fun i bar hbar => ?_, fun call hcall => hreg call (List.mem_append_right _ hcall)⟩
    have hmem : QemuCall.pciRegisterBar bar.option.barId.toNat (barAttr bar) bar.byteSize ∈
        setupBARs x.deref x.param :=
      (mem_setupBARs h _).mpr ⟨i, bar, hbar, List.mem_cons_of_mem _ List.mem_cons_self⟩
    have hacc := hreg _ (List.mem_append_left _ hmem)
    rw [QemuCall.Accepted, barAttr_memory64] at hacc
    exact hacc
  · rintro ⟨hbars, hint⟩ call hcall
    rcases List.mem_append.mp hcall with hset | hcall
    · rcases (mem_setupBARs h call).mp hset with ⟨i, bar, hbar, hin⟩
      rcases List.mem_cons.mp hin with rfl | hin
      · trivial
      · rw [List.mem_singleton.mp hin, QemuCall.Accepted, barAttr_memory64]
        exact hbars i bar hbar
    · exact hint call hcall

theorem requested_barType (F : Framework) (x : Ctx) (sType : String) (s a : UInt64)
    (b64 pf : LuaRef) :
    (x.requested F sType s a b64 pf).option.barType =
      (F.retrieveTag sType addressSpaceType % 2 == 1) := by
  simp only [Ctx.requested, Ctx.requestedBAR, BarOption.barType]
  rw [BarOption.flag_setFlag_other _ 10 8 _ (by omega) (by omega),
    BarOption.flag_setFlag_other _ 9 8 _ (by omega) (by omega), nextBarId,
    (nextBarId_fold x.this.mBARs.entries _).2 8 (by omega) (by omega),
    BarOption.flag_setFlag_self _ 8 _ (by omega)]

/-- QEMU takes a new BAR when its requested size is not zero, and at most 2 GiB
    unless it is a 64-bit memory BAR. -/
theorem finalBAR_registrable_iff (F : Framework) (x : Ctx) (sType : String) (s a : UInt64)
    (b64 pf : LuaRef) :
    (x.finalBAR (x.requested F sType s a b64 pf)).Registrable ↔
      s ≠ 0 ∧ (s.toNat ≤ 2 ^ 31 ∨
        (F.retrieveTag sType addressSpaceType % 2 = 1 ∧ b64.flag F = true)) := by
  have hsize : (x.finalBAR (x.requested F sType s a b64 pf)).byteSize = correctedSize s := rfl
  rw [TestdrivePciBar.Registrable, hsize, finalBAR_option, requested_barType, requested_b64bit,
    beq_iff_eq]
  by_cases hs : s = 0
  · -- The correction leaves a size of zero alone.
    refine iff_of_false (fun hc => ?_) fun hc => hc.1 hs
    rcases hc.1 with ⟨k, hk⟩
    rw [hs, correctedSize, if_pos rfl] at hk
    have hpos : 0 < 2 ^ k := Nat.pow_pos (by omega)
    rw [← hk] at hpos
    exact absurd hpos (by decide)
  · rcases correctedSize_spec s hs with ⟨m, hm, _, _, _⟩
    rw [correctedSize_lt_iff s hs 31 (by omega)]
    exact ⟨fun hc => ⟨hs, hc.2⟩, fun hc => ⟨⟨m, hm⟩, hc.2⟩⟩

/-- QEMU takes an MSI setup of no vectors or of a power of two of them. -/
theorem msi_accepted_iff (n : Int32) (mask : Bool) :
    (∀ call ∈ requestedCalls (some (.enableMSI n mask)), call.Accepted) ↔
      n.toInt = 0 ∨ ∃ k, k ≤ 5 ∧ n.toInt.toNat = 2 ^ k := by
  by_cases hn : n.toInt = 0
  · simp only [requestedCalls, hn, if_true, List.not_mem_nil, false_implies, implies_true,
      true_or]
  · rw [requestedCalls, if_neg hn]
    simp only [List.mem_singleton, forall_eq, QemuCall.Accepted, hn, false_or]

/-- QEMU takes every MSI-X setup. -/
theorem msix_accepted (n : Int32) (mask : Bool) (iBar offT offP : UInt32) :
    ∀ call ∈ interruptCalls (setMSIX n mask iBar offT offP), call.Accepted := by
  intro call hcall
  simp only [interruptCalls, setMSIX, if_true] at hcall
  split at hcall
  · rw [List.mem_singleton.mp hcall]
    trivial
  · exact absurd hcall List.not_mem_nil

/-- A call that is not accepted asks QEMU for nothing. -/
theorem registrableCall_of_rejected (F : Framework) (x : Ctx) (c : ScriptCall) (h : SlotInv x)
    (hne : (exec F x c).2 ≠ .returned true) : RegistrableCall F x c := by
  cases c with
  | createBAR t size addr b64 pf =>
      cases t with
      | none => trivial
      | some sType =>
          intro s a htype hsize haddr hfit
          rcases createBAR_of_decodes F x b64 pf htype hsize haddr with ⟨z, _, hyes, _⟩
          have hfits := (requested_fits_iff F x sType s a b64 pf h.within).mpr hfit
          rw [exec, hyes hfits] at hne
          exact absurd rfl hne
  | enableMSI n mask =>
      intro h0 h32
      have hrange : ¬ (n < 0 ∨ 32 ≤ n) := by
        rw [Int32.lt_iff_toInt_lt, Int32.le_iff_toInt_le]
        simp only [Int32.reduceToInt]
        omega
      rw [exec, Ctx.enableMSI, if_neg hrange] at hne
      exact absurd rfl hne
  | _ => trivial

/-- The other BARs stay, so only the record of the new one is in question. -/
theorem placeBAR_registrable_iff {x z : Ctx} {bar : TestdrivePciBar} (hthis : z.this = x.this)
    (hx : ∀ i b, x.this.mBARs.lookup i = some b → b.Registrable) :
    (∀ i b, (z.placeBAR bar).this.mBARs.lookup i = some b → b.Registrable) ↔
      bar.Registrable := by
  constructor
  · intro hall
    exact hall bar.option.barId.toNat bar (AList.lookup_insert _)
  · intro hbar i b hb
    rcases lookup_placeBAR hb with ⟨_, rfl⟩ | hold
    · exact hbar
    · rw [hthis] at hold
      exact hx i b hold

/-- A step keeps the configuration registrable exactly when the call is one
    QEMU can take. -/
theorem registrable_step (F : Framework) (x : Ctx) (c : ScriptCall) (h : SlotInv x)
    (hx : Registrable x) : Registrable (step F x c) ↔ RegistrableCall F x c := by
  have he := exec_effect F x c
  have hy : SlotInv (step F x c) := slotInv_step F x c h
  rw [registrable_split h] at hx
  rw [registrable_split hy]
  unfold step at hy ⊢
  generalize hr : (exec F x c).2 = r at he
  generalize (exec F x c).1 = y at he hy
  cases he with
  | quiet hq hne =>
      have hrejected : (exec F x c).2 ≠ .returned true := by
        rw [hr]
        exact hne
      refine iff_of_true ?_ (registrableCall_of_rejected F x c h hrejected)
      rw [hq.this, hq.param]
      exact hx
  | reset size addr b64 pf =>
      refine iff_of_true ⟨fun i bar hbar => ?_, hx.2⟩ trivial
      simp only [Ctx.resetBARs, AList.lookup_empty, reduceCtorEq] at hbar
  | @added z sType size addr b64 pf s a hq htype hsize haddr hfit =>
      generalize hbar : x.finalBAR (x.requested F sType s a b64 pf) = bar at hy
      have hregIff := finalBAR_registrable_iff F x sType s a b64 pf
      rw [hbar] at hregIff
      have hint : (z.placeBAR bar).param.interrupt = x.param.interrupt := by
        rw [← hq.param]; rfl
      rw [hint, placeBAR_registrable_iff hq.this hx.1, hregIff]
      -- A value decodes to one number, so the size found is the size asked about.
      constructor
      · rintro ⟨hsize', _⟩ s' a' _ hs' _ _
        rw [← hsize.unique hs']
        exact hsize'
      · intro hcall
        have hfit' := (requested_fits_iff F x sType s a b64 pf h.within).mp hfit
        exact ⟨hcall s a htype hsize haddr hfit', hx.2⟩
  | @msi _ n mask h0 h32 hq =>
      have h0' := toInt_nonneg h0
      have h32' : n.toInt < 32 := by
        rw [Int32.le_iff_toInt_le] at h32
        simpa using h32
      have hthis : y.this.mBARs = x.this.mBARs := by rw [hq.this]; rfl
      -- The BARs stay, and the new setup is the one that was asked for.
      have hint : interruptCalls y.param.interrupt = requestedCalls (some (.enableMSI n mask)) := by
        rw [hq.param]
        exact interruptCalls_setMSI n mask x.param.interrupt h0' h32'
      rw [hthis, hint, msi_accepted_iff]
      exact ⟨fun hc _ _ => hc.2, fun hc => ⟨hx.1, hc h0' h32'⟩⟩
  | @msix _ n mask iBar offT offP h5 hbar h0 h2048 hq =>
      refine iff_of_true ⟨?_, ?_⟩ trivial
      · rw [hq.this]; exact hx.1
      · rw [hq.param]; exact msix_accepted n mask iBar offT offP
  | display d _ hq =>
      refine iff_of_true ⟨?_, ?_⟩ trivial
      · rw [hq.this]; exact hx.1
      · rw [hq.param]; exact hx.2
  | load file o =>
      have hs := sameDevice_load x file o
      refine iff_of_true ⟨?_, ?_⟩ trivial
      · rw [hs.mBARs]; exact hx.1
      · rw [hs.param]; exact hx.2

/-- Along a script that starts from the initial configuration, QEMU takes the
    configuration of every state reached exactly when every call of the script
    is one QEMU can take. -/
theorem registrable_iff (F : Framework) (x : Ctx) (hbars : x.this.mBARs = ∅)
    (hzero : x.param = TestdriveParam.zero) (calls : List ScriptCall) :
    Runs.Always (step F) Registrable x calls ↔ Runs.Each (step F) (RegistrableCall F) x calls := by
  have hinv : SlotInv x := slotInv_empty hbars fun i => by rw [hzero]; rfl
  refine Runs.always_iff_each (step F) (fun y c => slotInv_step F y c)
    (fun y c => registrable_step F y c) calls x hinv ((registrable_split hinv).mpr ⟨?_, ?_⟩)
  · intro i bar hbar
    rw [hbars, AList.lookup_empty] at hbar
    simp only [reduceCtorEq] at hbar
  · intro call hcall
    rw [hzero] at hcall
    exact absurd hcall List.not_mem_nil

theorem registrable_msix16 :
    Runs.Always (step Framework.standard) Registrable Ctx.start (msixScript 16) ↔
      Runs.Each (step Framework.standard) (RegistrableCall Framework.standard) Ctx.start
        (msixScript 16) :=
  registrable_iff Framework.standard Ctx.start rfl rfl (msixScript 16)

/-- A memory BAR with its size left out is registered with size zero. -/
theorem sizeless_bar_not_registrable :
    ¬ Registrable (step Framework.standard Ctx.start
      (.createBAR (some "memory") .nil (.int64 0) .nil .nil)) := by
  intro h
  have hacc : (QemuCall.pciRegisterBar 0 0 0).Accepted := h _ (by decide)
  rcases hacc.1 with ⟨k, hk⟩
  have hpos : 0 < 2 ^ k := Nat.pow_pos (by omega)
  rw [← hk] at hpos
  exact absurd hpos (by decide)

end QemuTestdrive
