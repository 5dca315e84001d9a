import QemuTestdrive.Core.Device
import QemuTestdrive.Theory.BarSlots

/-!
# Interrupt Configuration

What the script asks for and what `device_realize` hands to QEMU. The settings
travel through `testdrive_param`, where the vector count is a byte, while
`EnableMSIX` accepts counts up to 2047.

`EnableMSI` leaves the MSI-X part of the settings as it was, so two histories
with the same last call need not leave the same record. They leave records that
`Agrees` relates, which is agreement on everything `device_realize` and
`device_exit` read.

## Main definitions

* `lastAccepted`: The last interrupt call of a script that returned true.
* `established`: The settings such a call leaves.
* `Interrupt.Agrees`: Equality of settings as far as they are read.
* `requestedCalls`: The setup that call asks QEMU for.

## Theorems

* `interrupt_effect`: Only an accepted interrupt call changes the settings.
* `interrupt_run`: The settings after a script are those of its last accepted
  call.
* `interruptCalls_iff`: When the setup is the one that was asked for.
-/

namespace QemuTestdrive

/-- A call that sets the interrupt mechanism. -/
def ScriptCall.isInterrupt : ScriptCall → Bool
  | .enableMSI _ _ => true
  | .enableMSIX _ _ _ _ _ => true
  | _ => false

/-- The last interrupt call of a script that returned true. -/
def lastAccepted (F : Framework) : Ctx → List ScriptCall → Option ScriptCall
  | _, [] => none
  | x, c :: cs =>
      (lastAccepted F (step F x c) cs).or
        (if c.isInterrupt ∧ (exec F x c).2 = .returned true then some c else none)

/-- The settings an accepted call leaves, from the settings `i`. -/
def established (i : Interrupt) : Option ScriptCall → Interrupt
  | some (.enableMSI n mask) => setMSI n mask i
  | some (.enableMSIX n mask iBar offT offP) => setMSIX n mask iBar offT offP
  | _ => i

/-- The ranges the interrupt calls check. -/
def ScriptCall.InRange : ScriptCall → Prop
  | .enableMSI n _ => 0 ≤ n.toInt ∧ n.toInt < 32
  | .enableMSIX n _ iBar _ _ => 0 ≤ n.toInt ∧ n.toInt < 2048 ∧ iBar.toNat ≤ 5
  | _ => True

/-- Agreement on the settings that are read: the MSI-X part counts only when it
    is enabled. -/
structure Interrupt.Agrees (i j : Interrupt) : Prop where
  vectorCount : i.vectorCount = j.vectorCount
  perVectorMask : i.perVectorMask = j.perVectorMask
  bEnable : i.extend.bEnable = j.extend.bEnable
  extend : i.extend.bEnable = true → i.extend = j.extend

theorem Interrupt.Agrees.refl (i : Interrupt) : i.Agrees i :=
  ⟨rfl, rfl, rfl, fun _ => rfl⟩

theorem Interrupt.Agrees.trans {i j k : Interrupt} (h1 : i.Agrees j) (h2 : j.Agrees k) :
    i.Agrees k :=
  ⟨h1.vectorCount.trans h2.vectorCount, h1.perVectorMask.trans h2.perVectorMask,
    h1.bEnable.trans h2.bEnable,
    fun h => (h1.extend h).trans (h2.extend (by rw [← h1.bEnable]; exact h))⟩

theorem Interrupt.Agrees.interruptCalls_eq {i j : Interrupt} (h : i.Agrees j) :
    interruptCalls i = interruptCalls j := by
  unfold interruptCalls
  rw [h.vectorCount, h.perVectorMask]
  by_cases hb : i.extend.bEnable = true
  · rw [h.extend hb]
  · rw [h.bEnable] at hb
    rw [h.bEnable, if_neg hb, if_neg hb]

theorem Interrupt.Agrees.mechanism_eq {i j : Interrupt} (h : i.Agrees j) :
    i.mechanism = j.mechanism := by
  unfold Interrupt.mechanism
  rw [h.vectorCount]
  by_cases hb : i.extend.bEnable = true
  · rw [h.extend hb]
  · rw [h.bEnable] at hb
    rw [h.bEnable, if_neg hb, if_neg hb]

/-- What an accepted call leaves does not depend on what was there before. -/
theorem established_agrees (i j : Interrupt) (c : ScriptCall) (hc : c.isInterrupt = true) :
    (established i (some c)).Agrees (established j (some c)) := by
  cases c with
  | enableMSI n mask =>
      -- The MSI-X part is left over from `i` or `j`, and disabled.
      exact ⟨rfl, rfl, rfl, fun h => Bool.noConfusion h⟩
  | enableMSIX n mask iBar offT offP => exact Interrupt.Agrees.refl _
  | _ => exact Bool.noConfusion hc

theorem toInt_nonneg {n : Int32} (h : ¬ n < 0) : 0 ≤ n.toInt := by
  rw [Int32.lt_iff_toInt_lt] at h
  simpa using h

/-- The settings change by an accepted interrupt call and by nothing else. -/
theorem interrupt_effect {F : Framework} {x y : Ctx} {c : ScriptCall} {r : CallResult}
    (he : Effect F x c y r) :
    ((c.isInterrupt = true ∧ r = .returned true) ∧ c.InRange ∧
        y.param.interrupt = established x.param.interrupt (some c)) ∨
      (¬ (c.isInterrupt = true ∧ r = .returned true) ∧
        y.param.interrupt = x.param.interrupt) := by
  -- Of the effects only `msi` and `msix` touch the settings.
  cases he with
  | quiet hq hr => exact Or.inr ⟨fun h => hr h.2, by rw [hq.param]⟩
  | reset => exact Or.inr ⟨fun h => Bool.noConfusion h.1, rfl⟩
  | added hq => exact Or.inr ⟨fun h => Bool.noConfusion h.1, by rw [← hq.param]; rfl⟩
  | msi h0 h32 hq =>
      refine Or.inl ⟨⟨rfl, rfl⟩, ⟨toInt_nonneg h0, ?_⟩, by rw [hq.param]; rfl⟩
      rw [Int32.le_iff_toInt_le] at h32
      simpa using h32
  | msix h5 _ h0 h2048 hq =>
      refine Or.inl ⟨⟨rfl, rfl⟩, ⟨toInt_nonneg h0, ?_, ?_⟩, by rw [hq.param]; rfl⟩
      · rw [Int32.le_iff_toInt_le] at h2048
        simpa using h2048
      · exact UInt32.le_iff_toNat_le.mp (UInt32.not_lt.mp h5)
  | display d _ hq => exact Or.inr ⟨fun h => Bool.noConfusion h.1, by rw [hq.param]; rfl⟩
  | load file o =>
      exact Or.inr ⟨fun h => Bool.noConfusion h.1, by rw [(sameDevice_load x file o).param]⟩

/-- The call `lastAccepted` finds is an interrupt call in its range. -/
theorem lastAccepted_spec (F : Framework) (calls : List ScriptCall) :
    ∀ (x : Ctx) (d : ScriptCall), lastAccepted F x calls = some d →
      d.isInterrupt = true ∧ d.InRange := by
  induction calls with
  | nil =>
      intro x d h
      simp only [lastAccepted, reduceCtorEq] at h
  | cons c cs ih =>
      intro x d h
      -- The call is found in the rest of the script, or it is the first.
      rw [lastAccepted, Option.or_eq_some_iff] at h
      rcases h with hrest | ⟨_, hhead⟩
      · exact ih (step F x c) d hrest
      · by_cases hc : c.isInterrupt = true ∧ (exec F x c).2 = .returned true
        · rw [if_pos hc, Option.some.injEq] at hhead
          rcases interrupt_effect (exec_effect F x c) with ⟨_, hrange, _⟩ | ⟨hno, _⟩
          · rw [← hhead]
            exact ⟨hc.1, hrange⟩
          · exact absurd hc hno
        · rw [if_neg hc] at hhead
          simp only [reduceCtorEq] at hhead

/-- The settings after a script agree with those of its last accepted call. -/
theorem interrupt_run (F : Framework) (calls : List ScriptCall) :
    ∀ x : Ctx, (Runs.run (step F) x calls).param.interrupt.Agrees
      (established x.param.interrupt (lastAccepted F x calls)) := by
  induction calls with
  | nil => intro x; exact Interrupt.Agrees.refl _
  | cons c cs ih =>
      intro x
      rw [Runs.run_cons]
      refine (ih (step F x c)).trans ?_
      rcases hlast : lastAccepted F (step F x c) cs with _ | d
      · -- The rest of the script accepts nothing, so `c` decides.
        rw [lastAccepted, hlast, Option.none_or]
        rcases interrupt_effect (exec_effect F x c) with ⟨hc, _, hset⟩ | ⟨hc, hset⟩
        · rw [if_pos hc, ← hset]
          exact Interrupt.Agrees.refl _
        · rw [if_neg hc]
          have hkeep : (step F x c).param.interrupt = x.param.interrupt := hset
          rw [hkeep]
          exact Interrupt.Agrees.refl _
      · -- A later call decides, whatever `c` has left.
        rw [lastAccepted, hlast, Option.some_or]
        exact established_agrees _ _ d (lastAccepted_spec F cs _ d hlast).1

/-- The setup the last accepted call asks for: its mechanism, its vector count,
    and for MSI-X its BAR and offsets, for MSI its mask flag. -/
def requestedCalls : Option ScriptCall → List QemuCall
  | some (.enableMSI n mask) =>
      if n.toInt = 0 then [] else [.msiInit 0x50 n.toInt.toNat true mask]
  | some (.enableMSIX n _ iBar offT offP) =>
      if n.toInt = 0 then [] else [.msixInit n.toInt.toNat iBar offT offP]
  | _ => []

/-- The byte a vector count is stored in. -/
theorem vectorCount_toNat (n : Int32) (h0 : 0 ≤ n.toInt) :
    n.toUInt32.toUInt8.toNat = n.toInt.toNat % 256 := by
  -- A count that is not negative is its own bit pattern.
  have hcond := BitVec.toInt_eq_toNat_cond n.toBitVec
  have hbound := n.toBitVec.isLt
  have hword : n.toUInt32.toNat = n.toBitVec.toNat := rfl
  rw [Int32.toInt_toBitVec] at hcond
  rw [UInt32.toNat_toUInt8, hword]
  split at hcond <;> omega

theorem vectorCount_eq_zero_iff (n : Int32) (h0 : 0 ≤ n.toInt) :
    n.toUInt32.toUInt8 = 0 ↔ n.toInt.toNat % 256 = 0 := by
  rw [← vectorCount_toNat n h0, ← UInt8.toNat_inj]
  rfl

/-- An accepted MSI count fits its byte. -/
theorem interruptCalls_setMSI (n : Int32) (mask : Bool) (i : Interrupt) (h0 : 0 ≤ n.toInt)
    (h32 : n.toInt < 32) :
    interruptCalls (setMSI n mask i) = requestedCalls (some (.enableMSI n mask)) := by
  have hcount := vectorCount_toNat n h0
  have hzero := vectorCount_eq_zero_iff n h0
  by_cases hn : n.toInt = 0
  · have hbyte : n.toUInt32.toUInt8 = 0 := hzero.mpr (by omega)
    simp only [interruptCalls, setMSI, requestedCalls, hbyte, hn, if_true, ne_eq,
      not_true_eq_false, if_false]
  · have hbyte : n.toUInt32.toUInt8 ≠ 0 := fun hc => by
      have := hzero.mp hc
      omega
    have hmod : n.toInt.toNat % 256 = n.toInt.toNat := Nat.mod_eq_of_lt (by omega)
    simp only [interruptCalls, setMSI, requestedCalls, if_neg hn, if_pos hbyte, hcount, hmod,
      Bool.false_eq_true, if_false]

/-- An accepted MSI-X count reaches QEMU exactly when it fits its byte. -/
theorem interruptCalls_setMSIX (n : Int32) (mask : Bool) (iBar offT offP : UInt32)
    (h0 : 0 ≤ n.toInt) :
    interruptCalls (setMSIX n mask iBar offT offP) =
      requestedCalls (some (.enableMSIX n mask iBar offT offP)) ↔ n.toInt < 256 := by
  have hcount := vectorCount_toNat n h0
  have hzero := vectorCount_eq_zero_iff n h0
  by_cases hn : n.toInt = 0
  · have hbyte : n.toUInt32.toUInt8 = 0 := hzero.mpr (by omega)
    simp only [interruptCalls, setMSIX, requestedCalls, hbyte, hn, if_true, ne_eq,
      not_true_eq_false, if_false, true_iff]
    decide
  · simp only [requestedCalls, if_neg hn]
    by_cases hbyte : n.toUInt32.toUInt8 = 0
    · -- A multiple of 256: no mechanism is set up at all.
      have hmod := hzero.mp hbyte
      simp only [interruptCalls, setMSIX, hbyte, ne_eq, not_true_eq_false, if_false,
        List.nil_eq, reduceCtorEq, false_iff]
      omega
    · simp only [interruptCalls, setMSIX, ne_eq, hbyte, not_false_eq_true, if_true, hcount,
        List.cons.injEq, QemuCall.msixInit.injEq, and_true]
      omega

/-- From zero-initialised parameters, the interrupt setup handed to QEMU is that
    of the last accepted call exactly when that call is not an `EnableMSIX` with
    256 vectors or more. -/
theorem interruptCalls_iff (F : Framework) (x : Ctx) (hzero : x.param = TestdriveParam.zero)
    (calls : List ScriptCall) :
    interruptCalls (Runs.run (step F) x calls).param.interrupt =
        requestedCalls (lastAccepted F x calls) ↔
      ∀ n mask iBar offT offP,
        lastAccepted F x calls = some (.enableMSIX n mask iBar offT offP) → n.toInt < 256 := by
  -- The setup depends on the last accepted call alone, so its kind decides.
  rw [(interrupt_run F calls x).interruptCalls_eq, hzero]
  rcases hlast : lastAccepted F x calls with _ | d
  · simp only [reduceCtorEq, false_implies, implies_true, iff_true]
    decide
  · have hspec := lastAccepted_spec F calls x d hlast
    cases d with
    | enableMSI n mask =>
        have hmsi := interruptCalls_setMSI n mask Interrupt.zero hspec.2.1 hspec.2.2
        exact ⟨fun _ _ _ _ _ _ hc => by simp only [Option.some.injEq, reduceCtorEq] at hc,
          fun _ => hmsi⟩
    | enableMSIX n mask iBar offT offP =>
        have hmsix := interruptCalls_setMSIX n mask iBar offT offP hspec.2.1
        constructor
        · intro heq m mask' iBar' offT' offP' hc
          simp only [Option.some.injEq, ScriptCall.enableMSIX.injEq] at hc
          rw [← hc.1]
          exact hmsix.mp heq
        · intro h
          exact hmsix.mpr (h n mask iBar offT offP rfl)
    | _ => exact Bool.noConfusion hspec.1

/-- A script that enables MSI-X with `n` vectors in its only BAR. -/
def msixScript (n : Int32) : List ScriptCall :=
  [.createBAR (some "memory") (.int64 0x10000) (.int64 0) .nil .nil,
    .enableMSIX n false 0 0 0x8000]

theorem interruptCalls_iff_msix16 :
    interruptCalls (Runs.run (step Framework.standard) Ctx.start (msixScript 16)).param.interrupt =
        requestedCalls (lastAccepted Framework.standard Ctx.start (msixScript 16)) ↔
      ∀ n mask iBar offT offP,
        lastAccepted Framework.standard Ctx.start (msixScript 16) =
          some (.enableMSIX n mask iBar offT offP) → n.toInt < 256 :=
  interruptCalls_iff Framework.standard Ctx.start rfl (msixScript 16)

/-- With 256 vectors the accepted call asks for MSI-X, and nothing is set up. -/
theorem interruptCalls_msix256 :
    lastAccepted Framework.standard Ctx.start (msixScript 256) =
        some (.enableMSIX 256 false 0 0 0x8000) ∧
      requestedCalls (lastAccepted Framework.standard Ctx.start (msixScript 256)) =
        [.msixInit 256 0 0 0x8000] ∧
      interruptCalls
        (Runs.run (step Framework.standard) Ctx.start (msixScript 256)).param.interrupt = [] := by
  refine ⟨rfl, rfl, by decide⟩

end QemuTestdrive
