import QemuTestdrive.Theory.Cursor

/-!
# Inserting into a String Object

What `insert` does to the place where tokenising goes on. An insertion in front of
the cursor moves it by the length of what is inserted, so that the same text follows
it, and any other insertion leaves it, so that the same text is in front of it.
Where the text does not have the position, `std::string` raises an exception and
leaves the text alone.

The cursor has already been moved by then. A negative position is always in front
of a cursor that has not finished, so the exception leaves the cursor at a position
that has nothing to do with the text. The other way to lose the place is a cursor
that does not fit an `int` once it is moved.

## Main definitions

* `InsertKept`: An insertion keeps the place, or changes nothing.
* `InsertSettled`: The insertions that do.

## Theorems

* `movedCursor_eq_iff`: When the cursor moves by the whole length.
* `movedCursor_self_iff`: When it does not move at all.
* `insertKept_outside`: An insertion at a position the text does not have.
* `insertKept_inside`: An insertion at a position of the text.
* `insertKept_iff`: When an insertion keeps the place or changes nothing.
* `insert_before_text`: An insertion that fails and moves the cursor.
-/

namespace QemuTestdrive

/-- An insertion at a position of the text keeps what follows a cursor after it and
    what is in front of any other cursor. Anywhere else it fails and changes
    nothing. -/
structure InsertKept (x : LuaCstring) (iPos : Int32) (s : String) : Prop where
  inserted : ∀ i : Nat, iPos.toInt = i → i ≤ x.mStr.length →
    (x.insert iPos s).2 = .ok () ∧
      (x.insert iPos s).1.mStr = x.mStr.take i ++ cStr s ++ x.mStr.drop i
  following : ∀ i c : Nat, iPos.toInt = i → i ≤ x.mStr.length → x.iTokenizePos.toInt = c →
    i < c → ∃ c' : Nat, (x.insert iPos s).1.iTokenizePos.toInt = c' ∧
      (x.insert iPos s).1.mStr.drop c' = x.mStr.drop c
  preceding : ∀ i c : Nat, iPos.toInt = i → i ≤ x.mStr.length → x.iTokenizePos.toInt = c →
    c ≤ i → ∃ c' : Nat, (x.insert iPos s).1.iTokenizePos.toInt = c' ∧
      (x.insert iPos s).1.mStr.take c' = x.mStr.take c
  unchanged : iPos.toInt < 0 ∨ x.mStr.length < iPos.toInt →
    (∃ e, (x.insert iPos s).2 = .error e) ∧ (x.insert iPos s).1 = x

/-- An insertion in front of the cursor leaves it within an `int`, or is of nothing if
    the position is negative. -/
def InsertSettled (x : LuaCstring) (iPos : Int32) (s : String) : Prop :=
  iPos < x.iTokenizePos →
    if iPos.toInt < 0 then 2 ^ 32 ∣ (cStr s).length
    else x.iTokenizePos.toInt + (cStr s).length < 2 ^ 31

variable {x : LuaCstring} {iPos : Int32} {s : String}

theorem movedCursor_eq_iff (hc : 0 ≤ x.iTokenizePos.toInt) :
    movedCursor x s = x.iTokenizePos.toInt + (cStr s).length ↔
      x.iTokenizePos.toInt + (cStr s).length < 2 ^ 31 := by
  rw [movedCursor, Int.bmod_def]
  split
  · omega
  · omega

theorem movedCursor_self_iff : movedCursor x s = x.iTokenizePos.toInt ↔
    2 ^ 32 ∣ (cStr s).length := by
  have hlow := Int32.le_toInt x.iTokenizePos
  have hhigh := Int32.toInt_lt x.iTokenizePos
  rw [movedCursor, Int.bmod_def]
  split
  · omega
  · omega

/-- Past the text only the cursor can change. -/
theorem insertKept_outside (hi : stdPos iPos x.mStr.length = none) :
    InsertKept x iPos s ↔ (x.insert iPos s).1.iTokenizePos = x.iTokenizePos := by
  have hout := stdPos_eq_none_iff.mp hi
  rcases insert_error s hi with ⟨herr, hrest⟩
  constructor
  · intro h
    exact congrArg LuaCstring.iTokenizePos (h.unchanged hout).2
  · intro hcursor
    refine ⟨fun i _ _ => by omega, fun i c _ _ _ _ => by omega, fun i c _ _ _ _ => by omega,
      fun _ => ⟨⟨_, herr⟩, ?_⟩⟩
    rw [hrest, hcursor]

/-- At a position of the text the insertion succeeds, and a cursor that is not after
    it stays. -/
theorem insertKept_inside {i : Nat} (hi : stdPos iPos x.mStr.length = some i) :
    InsertKept x iPos s ↔ ∀ c : Nat, x.iTokenizePos.toInt = c → i < c →
      ∃ c' : Nat, (x.insert iPos s).1.iTokenizePos.toInt = c' ∧
        (x.insert iPos s).1.mStr.drop c' = x.mStr.drop c := by
  rcases stdPos_eq_some_iff.mp hi with ⟨hpos, hle⟩
  rcases insert_ok s hi with ⟨hok, htext⟩
  refine ⟨fun h c hc hlt => h.following i c hpos hle hc hlt, fun hfollowing => ?_⟩
  refine ⟨fun j hj _ => ?_, fun j c hj _ hc hlt => ?_, fun j c hj _ hc hge => ?_, ?_⟩
  · obtain rfl : i = j := by omega
    exact ⟨hok, htext⟩
  · exact hfollowing c hc (by omega)
  · -- The insertion is at the cursor or after it, so the cursor stays.
    have hstays : ¬ iPos < x.iTokenizePos := by
      rw [Int32.lt_iff_toInt_lt]
      omega
    refine ⟨c, ?_, ?_⟩
    · rw [insert_cursor, if_neg hstays, hc]
    · rw [htext]
      exact Splice.take_splice 0 (cStr s) (by omega) hle
  · intro hout
    omega

/-- A cursor after the insertion is followed by the same text exactly when it has moved
    by the whole length. -/
theorem following_iff {i c : Nat} (hi : stdPos iPos x.mStr.length = some i)
    (hc : x.iTokenizePos.toInt = c) (hlen : c ≤ x.mStr.length) (hlt : i < c) :
    (∃ c' : Nat, (x.insert iPos s).1.iTokenizePos.toInt = c' ∧
        (x.insert iPos s).1.mStr.drop c' = x.mStr.drop c) ↔
      x.iTokenizePos.toInt + (cStr s).length < 2 ^ 31 := by
  rcases stdPos_eq_some_iff.mp hi with ⟨hpos, hle⟩
  have hbefore : iPos < x.iTokenizePos := by
    rw [Int32.lt_iff_toInt_lt]
    omega
  have hmoved := movedCursor_le x s (by omega)
  rw [insert_cursor, if_pos hbefore, (insert_ok s hi).2, ← movedCursor_eq_iff (by omega), hc]
  constructor
  · rintro ⟨c', hcursor, hdrop⟩
    -- A cursor that moved by less is followed by more.
    have hcount := congrArg List.length hdrop
    rw [List.length_drop, List.length_drop, Splice.length_splice 0 (cStr s) hle] at hcount
    omega
  · intro hcursor
    refine ⟨c + (cStr s).length, hcursor, ?_⟩
    exact Splice.drop_splice (n := 0) (cStr s) (by omega) hle

/-- An insertion keeps the place where tokenising goes on, or changes nothing, exactly
    when it is settled. -/
theorem insertKept_iff (x : LuaCstring) (iPos : Int32) (s : String)
    (hc : x.iTokenizePos.toInt = -1 ∨
      0 ≤ x.iTokenizePos.toInt ∧ x.iTokenizePos.toInt ≤ x.mStr.length) :
    InsertKept x iPos s ↔ InsertSettled x iPos s := by
  have hlt : iPos < x.iTokenizePos ↔ iPos.toInt < x.iTokenizePos.toInt := Int32.lt_iff_toInt_lt
  unfold InsertSettled
  cases hi : stdPos iPos x.mStr.length with
  | none =>
      have hout := stdPos_eq_none_iff.mp hi
      rw [insertKept_outside hi, ← Int32.toInt_inj, insert_cursor]
      by_cases hbefore : iPos < x.iTokenizePos
      · -- A position past the end is not in front of the cursor, so this one is negative.
        have hbefore' := hlt.mp hbefore
        have hneg : iPos.toInt < 0 := by omega
        rw [if_pos hbefore, if_pos hneg, movedCursor_self_iff]
        exact ⟨fun h _ => h, fun h => h hbefore⟩
      · rw [if_neg hbefore]
        exact iff_of_true rfl fun h => absurd h hbefore
  | some i =>
      rcases stdPos_eq_some_iff.mp hi with ⟨hpos, hle⟩
      have hnonneg : ¬ iPos.toInt < 0 := by omega
      rw [insertKept_inside hi, if_neg hnonneg]
      constructor
      · intro h hbefore
        have hbefore' := hlt.mp hbefore
        have hcursor : x.iTokenizePos.toInt = x.iTokenizePos.toInt.toNat := by omega
        exact (following_iff hi hcursor (by omega) (by omega)).mp (h _ hcursor (by omega))
      · intro h c hcursor hafter
        exact (following_iff hi hcursor (by omega) hafter).mpr (h (hlt.mpr (by omega)))

theorem insertKept_front :
    InsertKept { LuaCstring.new ['a', 'b', 'c'] with iTokenizePos := 2 } 1 "xy" :=
  (insertKept_iff _ 1 "xy" (by decide)).mpr (by unfold InsertSettled; decide)

/-- The insertion fails, and the cursor is on the last character. -/
theorem insert_before_text :
    ¬ InsertKept { LuaCstring.new ['a', 'b', 'c'] with iTokenizePos := 1 } (-1) "xy" := by
  intro h
  exact absurd (h.unchanged (by decide)).2 (by decide)

end QemuTestdrive
