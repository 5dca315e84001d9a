import QemuTestdrive.Lib.Runs
import QemuTestdrive.Lib.Slots
import QemuTestdrive.Theory.Effects

/-!
# BAR Slot Allocation

`CreateBAR` finds the slot of a new BAR by adding up the slots of the BARs
there are. That is an allocator which hands out cells from the bottom and never
takes one back, and the map of BARs read as blocks is its state: `barBlocks`
takes the map to the allocator, `nextBarId_eq` says that the loop computes its
total, `mapInv_step` that every script call keeps the blocks packed within six
cells, and `barBlocks_run` that the map follows `allocStep`, which looks at the
calls of the script alone.

`TableOf` keeps the map and the global table in step. A table entry points to
the entry of the map with its key, whose `bar_id` is the key itself, wherever
the map has one. Elsewhere it is what it was before the device was made, since
nothing but a reset clears it.

## Main definitions

* `barBlocks`: The BAR map as blocks of slots.
* `MapInv`, `TableOf`: The invariants of the BAR map and of the BAR table.
* `SlotInv`: Both, for a table that was empty before.
* `allocStep`: What a call does to the slots given out.
* `BarSlots`: The same as a statement about slots and pointers.

## Theorems

* `nextBarId_eq`: The slot of the next BAR is the number of slots taken.
* `requested_fits_iff`: A BAR fits when its slots are left.
* `barBlocks_place`: Storing a BAR serves a request.
* `mapInv_step`, `tableOf_step`: A script call keeps the invariants.
* `barBlocks_run`: The map follows the allocator along a script.
* `SlotInv.barSlots`: The invariant in terms of slots and pointers.
* `createBAR_unchanged`: A call that fails changes neither map nor table.
* `createBAR_takes`: A call that succeeds takes its slots.
* `createBAR_slots`: The slots after any sequence of calls.
-/

namespace QemuTestdrive

/-- A call that clears the BARs. -/
def ScriptCall.resets : ScriptCall → Bool
  | .createBAR none _ _ _ _ => true
  | _ => false

theorem eq_createBAR_of_resets {c : ScriptCall} (hc : c.resets = true) :
    ∃ size addr b64 pf, c = .createBAR none size addr b64 pf := by
  cases c with
  | createBAR t size addr b64 pf =>
      cases t with
      | none => exact ⟨size, addr, b64, pf, rfl⟩
      | some sType => exact Bool.noConfusion hc
  | _ => exact Bool.noConfusion hc

/-- The BAR map as blocks of slots. -/
def barBlocks (bars : AList fun _ : Nat => TestdrivePciBar) : List (Nat × Nat) :=
  bars.entries.map fun e => (e.1, e.2.slots)

theorem slots_pos (bar : TestdrivePciBar) : 0 < bar.slots := by
  unfold TestdrivePciBar.slots
  split <;> omega

theorem slotSum_toNat (bar : TestdrivePciBar) :
    (if bar.option.b64bit then (2 : UInt8) else 1).toNat = bar.slots := by
  unfold TestdrivePciBar.slots
  split <;> rfl

/-- The loop of `CreateBAR` over the map adds the slots taken to `bar_id` and
    leaves the flags alone. -/
theorem nextBarId_fold (es : List (Sigma fun _ : Nat => TestdrivePciBar)) (o : BarOption) :
    (es.foldl (fun o e => o.setBarId (o.barId + if e.2.option.b64bit then 2 else 1)) o).barId.toNat
        = (o.barId.toNat + Slots.total (es.map fun e => (e.1, e.2.slots))) % 256 ∧
      ∀ i, 8 ≤ i → i < 32 →
        (es.foldl (fun o e => o.setBarId (o.barId + if e.2.option.b64bit then 2 else 1)) o).flag i
          = o.flag i := by
  -- The low byte of `o` is what has been added up so far.
  induction es generalizing o with
  | nil =>
      refine ⟨?_, fun _ _ _ => rfl⟩
      simp only [List.foldl_nil, List.map_nil, Slots.total, Nat.add_zero]
      rw [Nat.mod_eq_of_lt o.barId.toNat_lt]
  | cons e es ih =>
      rcases ih (o.setBarId (o.barId + if e.2.option.b64bit then 2 else 1)) with ⟨hid, hflag⟩
      constructor
      · rw [List.foldl_cons, hid, BarOption.barId_setBarId, UInt8.toNat_add, slotSum_toNat]
        simp only [List.map_cons, Slots.total]
        omega
      · intro i h8 h32
        rw [List.foldl_cons, hflag i h8 h32, BarOption.flag_setBarId _ _ i h8 h32]

section Requested

variable (F : Framework) (x : Ctx) (sType : String) (s a : UInt64) (b64 pf : LuaRef)

theorem requested_b64bit : (x.requested F sType s a b64 pf).option.b64bit = b64.flag F := by
  simp only [Ctx.requested, Ctx.requestedBAR, BarOption.b64bit]
  rw [BarOption.flag_setFlag_other _ 10 9 _ (by omega) (by omega),
    BarOption.flag_setFlag_self _ 9 _ (by omega)]

/-- The number of slots a BAR takes depends on its 64-bit flag alone. -/
theorem requested_slots :
    (x.requested F sType s a b64 pf).slots = if b64.flag F then 2 else 1 := by
  rw [TestdrivePciBar.slots, requested_b64bit]

/-- The slot of the next BAR is the number of slots taken. -/
theorem nextBarId_eq (h : Slots.total (barBlocks x.this.mBARs) ≤ 6) :
    (x.requested F sType s a b64 pf).option.barId.toNat =
      Slots.total (barBlocks x.this.mBARs) := by
  simp only [Ctx.requested, Ctx.requestedBAR]
  rw [BarOption.barId_setFlag _ 10 _ (by omega), BarOption.barId_setFlag _ 9 _ (by omega),
    nextBarId, (nextBarId_fold x.this.mBARs.entries _).1,
    BarOption.barId_setFlag _ 8 _ (by omega)]
  -- The sum is at most six, so the byte it is kept in holds it.
  have hzero : (⟨0⟩ : BarOption).barId.toNat = 0 := by decide
  rw [hzero, Nat.zero_add]
  exact Nat.mod_eq_of_lt (Nat.lt_of_le_of_lt h (by omega))

/-- A BAR fits when its slots are left. -/
theorem requested_fits_iff (h : Slots.total (barBlocks x.this.mBARs) ≤ 6) :
    (x.requested F sType s a b64 pf).Fits ↔
      Slots.total (barBlocks x.this.mBARs) + (if b64.flag F then 2 else 1) ≤ 6 := by
  rw [TestdrivePciBar.Fits, nextBarId_eq F x sType s a b64 pf h, requested_slots]

theorem finalBAR_option (bar : TestdrivePciBar) : (x.finalBAR bar).option = bar.option := rfl

theorem finalBAR_slots (bar : TestdrivePciBar) : (x.finalBAR bar).slots = bar.slots := rfl

end Requested

/-- The invariant of the BAR map: its blocks are packed into the six slots, and
    every entry knows its slot and its owner. -/
structure MapInv (x : Ctx) : Prop where
  packed : Slots.Packed (barBlocks x.this.mBARs)
  within : Slots.total (barBlocks x.this.mBARs) ≤ 6
  ids : ∀ i bar, x.this.mBARs.lookup i = some bar → bar.option.barId.toNat = i
  owned : ∀ i bar, x.this.mBARs.lookup i = some bar → bar.pTestDrive = some x.this.self

/-- The BAR table points to the entries of the map, and elsewhere holds what
    `stale` does. -/
def TableOf (stale : Nat → Option BarPtr) (x : Ctx) : Prop :=
  ∀ i, x.param.bar i =
    if i ∈ x.this.mBARs then some { owner := x.this.self, key := i } else stale i

/-- The invariant of the BAR map and the BAR table, when the table was empty
    before. -/
structure SlotInv (x : Ctx) : Prop extends MapInv x where
  table : ∀ i, x.param.bar i =
    if i ∈ x.this.mBARs then some { owner := x.this.self, key := i } else none

section Invariant

variable {F : Framework} {x y : Ctx} {stale : Nat → Option BarPtr}

theorem MapInv.congr (h : MapInv x) (hself : y.this.self = x.this.self)
    (hbars : y.this.mBARs = x.this.mBARs) : MapInv y := by
  refine ⟨?_, ?_, ?_, ?_⟩
  · rw [hbars]; exact h.packed
  · rw [hbars]; exact h.within
  · rw [hbars]; exact h.ids
  · rw [hbars, hself]; exact h.owned

theorem TableOf.congr (h : TableOf stale x) (hself : y.this.self = x.this.self)
    (hbars : y.this.mBARs = x.this.mBARs) (hbar : y.param.bar = x.param.bar) :
    TableOf stale y := by
  intro i
  rw [hbars, hbar, hself]
  exact h i

/-- The block of a BAR in the map. -/
theorem mem_barBlocks {bars : AList fun _ : Nat => TestdrivePciBar} {i : Nat}
    {bar : TestdrivePciBar} (h : bars.lookup i = some bar) : (i, bar.slots) ∈ barBlocks bars := by
  have hmem : (⟨i, bar⟩ : Sigma fun _ : Nat => TestdrivePciBar) ∈ bars.entries :=
    AList.mem_lookup_iff.mp h
  exact List.mem_map.mpr ⟨_, hmem, rfl⟩

/-- A block of the map is the block of one of its BARs. -/
theorem exists_of_mem_barBlocks {bars : AList fun _ : Nat => TestdrivePciBar} {b : Nat × Nat}
    (h : b ∈ barBlocks bars) : ∃ bar, bars.lookup b.1 = some bar ∧ b.2 = bar.slots := by
  rcases List.mem_map.mp h with ⟨e, he, rfl⟩
  exact ⟨e.2, AList.mem_lookup_iff.mpr he, rfl⟩

/-- The slots taken are past every key, so the next slot is not a key yet. -/
theorem MapInv.total_notMem (h : MapInv x) :
    Slots.total (barBlocks x.this.mBARs) ∉ x.this.mBARs := by
  intro hmem
  rcases Option.isSome_iff_exists.mp (AList.lookup_isSome.mpr hmem) with ⟨bar, hbar⟩
  -- A BAR takes at least one slot, so it starts below the total.
  have hlt := h.packed.start_lt (mem_barBlocks hbar) (slots_pos bar)
  omega

/-- Storing a BAR that fits at the next slot serves a request of its slots. -/
theorem barBlocks_place (h : MapInv x) (bar : TestdrivePciBar)
    (hid : bar.option.barId.toNat = Slots.total (barBlocks x.this.mBARs)) (hfit : bar.Fits) :
    barBlocks (x.placeBAR bar).this.mBARs =
      Slots.push 6 (barBlocks x.this.mBARs) bar.slots := by
  have hnew : bar.option.barId.toNat ∉ x.this.mBARs := by
    rw [hid]
    exact h.total_notMem
  unfold TestdrivePciBar.Fits at hfit
  rw [hid] at hfit
  -- The key is new, so the insertion adds a block and replaces none.
  rw [Slots.push, if_pos hfit]
  simp only [Ctx.placeBAR, barBlocks]
  rw [AList.entries_insert_of_notMem hnew, List.map_cons, hid]
  rfl

/-- Storing a BAR at the next slot keeps the map right when it fits. -/
theorem mapInv_place (h : MapInv x) (bar : TestdrivePciBar)
    (hid : bar.option.barId.toNat = Slots.total (barBlocks x.this.mBARs)) (hfit : bar.Fits)
    (hown : bar.pTestDrive = some x.this.self) : MapInv (x.placeBAR bar) := by
  refine ⟨?_, ?_, fun i b hb => ?_, fun i b hb => ?_⟩
  · rw [barBlocks_place h bar hid hfit]
    exact Slots.packed_push 6 _ _ h.packed
  · rw [barBlocks_place h bar hid hfit]
    exact Slots.total_push_le 6 _ _ h.within
  · rcases lookup_placeBAR hb with ⟨rfl, rfl⟩ | hold
    · rfl
    · exact h.ids i b hold
  · rcases lookup_placeBAR hb with ⟨rfl, rfl⟩ | hold
    · exact hown
    · exact h.owned i b hold

/-- Storing a BAR makes its table entry point to it. -/
theorem tableOf_place (h : TableOf stale x) (bar : TestdrivePciBar) :
    TableOf stale (x.placeBAR bar) := by
  intro i
  simp only [Ctx.placeBAR, TestdriveParam.setBar, AList.mem_insert]
  by_cases hi : i = bar.option.barId.toNat
  · rw [if_pos hi, if_pos (Or.inl hi), hi]
  · rw [if_neg hi, h i]
    by_cases hmem : i ∈ x.this.mBARs
    · rw [if_pos hmem, if_pos (Or.inr hmem)]
    · rw [if_neg hmem, if_neg (by rintro (h1 | h1) <;> contradiction)]

theorem mapInv_reset (x : Ctx) : MapInv x.resetBARs := by
  refine ⟨trivial, Nat.zero_le 6, fun i bar hbar => ?_, fun i bar hbar => ?_⟩
  · simp only [Ctx.resetBARs, AList.lookup_empty, reduceCtorEq] at hbar
  · simp only [Ctx.resetBARs, AList.lookup_empty, reduceCtorEq] at hbar

theorem tableOf_reset (x : Ctx) : TableOf (fun _ => none) x.resetBARs := by
  intro i
  exact (if_neg (AList.notMem_empty i)).symm

theorem mapInv_effect {c : ScriptCall} {r : CallResult} (h : MapInv x) (he : Effect F x c y r) :
    MapInv y := by
  cases he with
  | quiet hq _ => exact h.congr (by rw [hq.this]) (by rw [hq.this])
  | reset => exact mapInv_reset x
  | @added z sType size addr b64 pf s a hq _ _ _ hfit =>
      have hz : MapInv z := h.congr (by rw [hq.this]) (by rw [hq.this])
      refine mapInv_place hz (x.finalBAR (x.requested F sType s a b64 pf)) ?_ hfit ?_
      · rw [finalBAR_option, hq.this, nextBarId_eq F x sType s a b64 pf h.within]
      · rw [hq.this]
        rfl
  | msi _ _ hq => exact h.congr (by rw [hq.this]; rfl) (by rw [hq.this]; rfl)
  | msix _ _ _ _ hq => exact h.congr (by rw [hq.this]; rfl) (by rw [hq.this]; rfl)
  | display d _ hq => exact h.congr (by rw [hq.this]; rfl) (by rw [hq.this]; rfl)
  | load file o =>
      have hs := sameDevice_load x file o
      exact h.congr hs.self hs.mBARs

/-- A call that is not a reset keeps the entries the device does not own. -/
theorem tableOf_effect {c : ScriptCall} {r : CallResult} (h : TableOf stale x)
    (he : Effect F x c y r) (hc : c.resets = false) : TableOf stale y := by
  cases he with
  | quiet hq _ => exact h.congr (by rw [hq.this]) (by rw [hq.this]) (by rw [hq.param])
  | reset => exact Bool.noConfusion hc
  | added hq =>
      exact tableOf_place (h.congr (by rw [hq.this]) (by rw [hq.this]) (by rw [hq.param])) _
  | msi _ _ hq =>
      exact h.congr (by rw [hq.this]; rfl) (by rw [hq.this]; rfl) (by rw [hq.param]; rfl)
  | msix _ _ _ _ hq =>
      exact h.congr (by rw [hq.this]; rfl) (by rw [hq.this]; rfl) (by rw [hq.param]; rfl)
  | display d _ hq =>
      exact h.congr (by rw [hq.this]; rfl) (by rw [hq.this]; rfl) (by rw [hq.param]; rfl)
  | load file o =>
      have hs := sameDevice_load x file o
      exact h.congr hs.self hs.mBARs (by rw [hs.param])

end Invariant

/-- A script call keeps the map right. -/
theorem mapInv_step (F : Framework) (x : Ctx) (c : ScriptCall) (h : MapInv x) :
    MapInv (step F x c) :=
  mapInv_effect h (exec_effect F x c)

/-- A script call keeps the entries the device does not own, but for a reset,
    which clears them. -/
theorem tableOf_step (F : Framework) (stale : Nat → Option BarPtr) (x : Ctx) (c : ScriptCall)
    (h : TableOf stale x) :
    TableOf (if c.resets then fun _ => none else stale) (step F x c) := by
  cases hc : c.resets with
  | false => exact tableOf_effect h (exec_effect F x c) hc
  | true =>
      rcases eq_createBAR_of_resets hc with ⟨size, addr, b64, pf, rfl⟩
      exact tableOf_reset x

/-- A script call keeps the invariant. -/
theorem slotInv_step (F : Framework) (x : Ctx) (c : ScriptCall) (h : SlotInv x) :
    SlotInv (step F x c) := by
  have htable := tableOf_step F (fun _ => none) x c h.table
  rw [ite_self] at htable
  exact ⟨mapInv_step F x c h.toMapInv, htable⟩

theorem mapInv_empty {x : Ctx} (hbars : x.this.mBARs = ∅) : MapInv x := by
  refine ⟨?_, ?_, fun i bar h => ?_, fun i bar h => ?_⟩
  · rw [hbars]; trivial
  · rw [hbars]; exact Nat.zero_le 6
  · rw [hbars, AList.lookup_empty] at h
    simp only [reduceCtorEq] at h
  · rw [hbars, AList.lookup_empty] at h
    simp only [reduceCtorEq] at h

/-- Without BARs and table entries the invariant holds. -/
theorem slotInv_empty {x : Ctx} (hbars : x.this.mBARs = ∅) (hbar : ∀ i, x.param.bar i = none) :
    SlotInv x := by
  refine ⟨mapInv_empty hbars, fun i => ?_⟩
  rw [hbars, hbar i, if_neg (AList.notMem_empty i)]

/-- The slots a BAR takes: its own, and the next one for a 64-bit BAR. -/
def TestdrivePciBar.slotSet (bar : TestdrivePciBar) : List Nat :=
  if bar.option.b64bit then [bar.option.barId.toNat, bar.option.barId.toNat + 1]
  else [bar.option.barId.toNat]

/-- The number of slots the BARs take. -/
def Ctx.slotsTaken (x : Ctx) : Nat :=
  Slots.total (barBlocks x.this.mBARs)

theorem mem_slotSet (bar : TestdrivePciBar) (j : Nat) :
    j ∈ bar.slotSet ↔
      bar.option.barId.toNat ≤ j ∧ j < bar.option.barId.toNat + bar.slots := by
  unfold TestdrivePciBar.slotSet TestdrivePciBar.slots
  by_cases hb : bar.option.b64bit = true
  · rw [if_pos hb, if_pos hb, List.mem_cons, List.mem_singleton]
    omega
  · rw [if_neg hb, if_neg hb, List.mem_singleton]
    omega

/-- What the BAR map and the BAR table look like in every state reached. -/
structure BarSlots (x : Ctx) : Prop where
  nonNull : ∀ i, (x.param.bar i).isSome ↔ i ∈ x.this.mBARs
  entry : ∀ i p, x.param.bar i = some p →
    p = { owner := x.this.self, key := i } ∧
      ∃ bar, x.deref p = some bar ∧ bar.option.barId.toNat = i
  disjoint : ∀ i j b c, i ≠ j → x.this.mBARs.lookup i = some b → x.this.mBARs.lookup j = some c →
    ∀ n, n ∈ b.slotSet → n ∉ c.slotSet
  range : ∀ i b, x.this.mBARs.lookup i = some b → ∀ n ∈ b.slotSet, n ≤ 5
  segment : ∀ n, n < x.slotsTaken ↔ ∃ i b, x.this.mBARs.lookup i = some b ∧ n ∈ b.slotSet

theorem SlotInv.barSlots {x : Ctx} (h : SlotInv x) : BarSlots x := by
  refine ⟨fun i => ?_, fun i p hp => ?_, fun i j b c hij hb hc n hnb hnc => ?_,
    fun i b hb n hn => ?_, fun n => ?_⟩
  · rw [h.table i]
    by_cases hmem : i ∈ x.this.mBARs
    · rw [if_pos hmem]
      exact ⟨fun _ => hmem, fun _ => rfl⟩
    · rw [if_neg hmem]
      exact ⟨fun hc => absurd hc (by decide), fun hc => absurd hc hmem⟩
  · rw [h.table i] at hp
    by_cases hmem : i ∈ x.this.mBARs
    · rw [if_pos hmem, Option.some.injEq] at hp
      rcases Option.isSome_iff_exists.mp (AList.lookup_isSome.mpr hmem) with ⟨bar, hbar⟩
      refine ⟨hp.symm, bar, ?_, h.ids i bar hbar⟩
      rw [← hp, Ctx.deref, if_pos rfl]
      exact hbar
    · rw [if_neg hmem] at hp
      simp only [reduceCtorEq] at hp
  · -- A slot of both would lie in two blocks of the packing.
    rw [mem_slotSet, h.ids i b hb] at hnb
    rw [mem_slotSet, h.ids j c hc] at hnc
    have hne : (i, b.slots) ≠ (j, c.slots) := fun heq => hij (congrArg Prod.fst heq)
    have hapart := h.packed.disjoint (mem_barBlocks hb) (mem_barBlocks hc) hne
    omega
  · rw [mem_slotSet, h.ids i b hb] at hn
    -- The last slot of a block is below the total, which is at most six.
    have hle := h.packed.block_le (mem_barBlocks hb)
    have hsix := h.within
    omega
  · rw [Ctx.slotsTaken, ← h.packed.covers n]
    constructor
    · rintro ⟨b, hb, hn⟩
      rcases exists_of_mem_barBlocks hb with ⟨bar, hbar, hw⟩
      refine ⟨b.1, bar, hbar, ?_⟩
      rw [mem_slotSet, h.ids b.1 bar hbar, ← hw]
      exact hn
    · rintro ⟨i, bar, hbar, hn⟩
      rw [mem_slotSet, h.ids i bar hbar] at hn
      exact ⟨(i, bar.slots), mem_barBlocks hbar, hn⟩

/-- A call that does not succeed leaves the map and the table alone. -/
theorem createBAR_unchanged (F : Framework) (x : Ctx) (t : Option String)
    (size addr b64 pf : LuaRef) (hfail : (x.createBAR F t size addr b64 pf).2 ≠ .ok true) :
    (x.createBAR F t size addr b64 pf).1.this.mBARs = x.this.mBARs ∧
      (x.createBAR F t size addr b64 pf).1.param.bar = x.param.bar := by
  have he := createBAR_effect F x t size addr b64 pf
  -- Of the effects of `CreateBAR`, only the quiet one returns something else.
  have hr : CallResult.ofExcept (x.createBAR F t size addr b64 pf).2 ≠ .returned true := by
    intro heq
    rcases hres : (x.createBAR F t size addr b64 pf).2 with e | b
    · rw [hres] at heq
      exact CallResult.noConfusion heq
    · rw [hres, CallResult.ofExcept, CallResult.returned.injEq] at heq
      exact hfail (by rw [hres, heq])
  generalize (x.createBAR F t size addr b64 pf).1 = y at he ⊢
  generalize CallResult.ofExcept (x.createBAR F t size addr b64 pf).2 = r at he hr
  cases he with
  | quiet hq _ => exact ⟨by rw [hq.this], by rw [hq.param]⟩
  | reset => exact absurd rfl hr
  | added => exact absurd rfl hr

/-- A call with a type that succeeds stores one BAR, at the number of slots taken so
    far, and takes its slots. -/
theorem createBAR_takes (F : Framework) (x : Ctx) (h : MapInv x) (sType : String)
    (size addr b64 pf : LuaRef)
    (hok : (x.createBAR F (some sType) size addr b64 pf).2 = .ok true) :
    (x.createBAR F (some sType) size addr b64 pf).1.slotsTaken =
        x.slotsTaken + (if b64.flag F then 2 else 1) ∧
      ∃ bar, (x.createBAR F (some sType) size addr b64 pf).1.this.mBARs =
          x.this.mBARs.insert x.slotsTaken bar ∧
        bar.slots = if b64.flag F then 2 else 1 := by
  have he := createBAR_effect F x (some sType) size addr b64 pf
  have hr : CallResult.ofExcept (x.createBAR F (some sType) size addr b64 pf).2 =
      .returned true := by
    rw [hok]
    rfl
  rw [hr] at he
  generalize (x.createBAR F (some sType) size addr b64 pf).1 = y at he ⊢
  cases he with
  | quiet _ hne => exact absurd rfl hne
  | @added z _ _ _ _ _ s a hq _ _ _ hfit =>
      have hz : MapInv z := h.congr (by rw [hq.this]) (by rw [hq.this])
      have hid := nextBarId_eq F x sType s a b64 pf h.within
      have hslots := requested_slots F x sType s a b64 pf
      have hle := (requested_fits_iff F x sType s a b64 pf h.within).mp hfit
      have hplace := barBlocks_place hz (x.finalBAR (x.requested F sType s a b64 pf))
        (by rw [finalBAR_option, hq.this, hid]) hfit
      refine ⟨?_, x.finalBAR (x.requested F sType s a b64 pf), ?_, ?_⟩
      · -- The request fits, so the allocator serves it.
        rw [Ctx.slotsTaken, hplace, finalBAR_slots, hslots, hq.this, Slots.push, if_pos hle]
        exact Nat.add_comm _ _
      · simp only [Ctx.placeBAR, finalBAR_option, hid, hq.this]
        rfl
      · rw [finalBAR_slots, hslots]

/-- After any sequence of script calls on a device that starts without BARs,
    the map and the table agree, the slots of the BARs are disjoint and fill an
    initial segment of the six. A call with a valid type fails exactly when its
    slots are not left, one that succeeds takes them, and a call that fails changes
    neither the map nor the table. -/
theorem createBAR_slots (F : Framework) (x : Ctx) (hbars : x.this.mBARs = ∅)
    (hbar : ∀ i, x.param.bar i = none) (calls : List ScriptCall) :
    BarSlots (Runs.run (step F) x calls) ∧
      (∀ sType size addr b64 pf s a, 0 ≤ F.retrieveTag sType addressSpaceType →
        Decodes F size s → Decodes F addr a →
        (((Runs.run (step F) x calls).createBAR F (some sType) size addr b64 pf).2 ≠ .ok true ↔
          6 < (Runs.run (step F) x calls).slotsTaken + if b64.flag F then 2 else 1)) ∧
      (∀ t size addr b64 pf,
        ((Runs.run (step F) x calls).createBAR F t size addr b64 pf).2 ≠ .ok true →
        ((Runs.run (step F) x calls).createBAR F t size addr b64 pf).1.this.mBARs =
            (Runs.run (step F) x calls).this.mBARs ∧
          ((Runs.run (step F) x calls).createBAR F t size addr b64 pf).1.param.bar =
            (Runs.run (step F) x calls).param.bar) ∧
      ∀ sType size addr b64 pf,
        ((Runs.run (step F) x calls).createBAR F (some sType) size addr b64 pf).2 = .ok true →
        ((Runs.run (step F) x calls).createBAR F (some sType) size addr b64 pf).1.slotsTaken =
            (Runs.run (step F) x calls).slotsTaken + (if b64.flag F then 2 else 1) ∧
          ∃ bar, ((Runs.run (step F) x calls).createBAR F (some sType) size addr b64
              pf).1.this.mBARs =
              (Runs.run (step F) x calls).this.mBARs.insert
                (Runs.run (step F) x calls).slotsTaken bar ∧
            bar.slots = if b64.flag F then 2 else 1 := by
  have hinv : SlotInv (Runs.run (step F) x calls) :=
    Runs.run_preserves (step F) (slotInv_step F) x calls (slotInv_empty hbars hbar)
  generalize Runs.run (step F) x calls = y at hinv ⊢
  refine ⟨hinv.barSlots, fun sType size addr b64 pf s a htype hsize haddr => ?_,
    fun t size addr b64 pf => createBAR_unchanged F y t size addr b64 pf,
    fun sType size addr b64 pf => createBAR_takes F y hinv.toMapInv sType size addr b64 pf⟩
  rcases createBAR_of_decodes F y b64 pf htype hsize haddr with ⟨z, _, hyes, hno⟩
  have hfits := requested_fits_iff F y sType s a b64 pf hinv.within
  rw [Ctx.slotsTaken]
  -- With a valid type and decodable numbers only the slot check is left.
  by_cases hfit : (y.requested F sType s a b64 pf).Fits
  · rw [hyes hfit]
    have hle := hfits.mp hfit
    exact ⟨fun hc => absurd rfl hc, fun hlt => by omega⟩
  · rcases hno hfit with ⟨w, _, heq⟩
    rw [heq]
    rw [hfits] at hfit
    exact ⟨fun _ => by omega, fun _ hc => Bool.noConfusion (Except.ok.inj hc)⟩

/-- The calls of a script that makes two BARs. -/
def twoBARs : List ScriptCall :=
  [.createBAR (some "memory") (.int64 0x1000) (.int64 0) (.boolean true) .nil,
    .createBAR (some "io") (.int64 0x100) (.int64 0) .nil .nil]

theorem createBAR_slots_start :
    let x := Runs.run (step Framework.standard) Ctx.start twoBARs
    BarSlots x ∧
      (∀ sType size addr b64 pf s a, 0 ≤ Framework.standard.retrieveTag sType addressSpaceType →
        Decodes Framework.standard size s → Decodes Framework.standard addr a →
        ((x.createBAR Framework.standard (some sType) size addr b64 pf).2 ≠ .ok true ↔
          6 < x.slotsTaken + if b64.flag Framework.standard then 2 else 1)) ∧
      (∀ t size addr b64 pf, (x.createBAR Framework.standard t size addr b64 pf).2 ≠ .ok true →
        (x.createBAR Framework.standard t size addr b64 pf).1.this.mBARs = x.this.mBARs ∧
          (x.createBAR Framework.standard t size addr b64 pf).1.param.bar = x.param.bar) ∧
      ∀ sType size addr b64 pf,
        (x.createBAR Framework.standard (some sType) size addr b64 pf).2 = .ok true →
        (x.createBAR Framework.standard (some sType) size addr b64 pf).1.slotsTaken =
            x.slotsTaken + (if b64.flag Framework.standard then 2 else 1) ∧
          ∃ bar, (x.createBAR Framework.standard (some sType) size addr b64 pf).1.this.mBARs =
              x.this.mBARs.insert x.slotsTaken bar ∧
            bar.slots = if b64.flag Framework.standard then 2 else 1 :=
  createBAR_slots Framework.standard Ctx.start rfl (fun _ => rfl) twoBARs

end QemuTestdrive
