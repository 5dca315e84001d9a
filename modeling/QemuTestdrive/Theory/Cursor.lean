import QemuTestdrive.Core.LuaString
import QemuTestdrive.Lib.Runs

/-!
# The Cursor of a String Object

Where the cursor of a `lua_cstring` points. The operations that go through the base
class either set it back to zero, where it is inside of any text, or leave it where
it is, and then the new text may be too short for it. Erasing and replacing at a
position leave it too. Only `insert` moves it, by the length of what is inserted,
and it does so before the position is looked at.

A cursor inside the text stays inside as long as every operation that leaves it
leaves a text that is long enough, and every insertion that moves it moves it to a
position the text has. These are conditions on the object before the operation and
on its arguments, and `always_iff_each` takes them from one operation to all of
them.

## Main definitions

* `CursorInside`: The cursor is at a position of the text or has finished.
* `movedCursor`: The cursor after an insertion in front of it.
* `CursorSafe`: The changes that keep the cursor inside.

## Theorems

* `cursorInside_iff`: No pointer is past the text when the cursor is where it should be.
* `inside_replace`: Erasing and replacing at a position.
* `inside_insert`: Inserting at a position.
* `cursorSafe_iff`: When a change keeps the cursor inside.
* `cursorInside_run`: When every change of a sequence does.
* `erase_under_cursor`: A sequence where one does not.
-/

namespace QemuTestdrive

/-- The cursor is -1 or a position of the text, and `TokenizeVariable` does not form
    a pointer past the text. -/
structure CursorInside (x : LuaCstring) : Prop where
  cursor : x.iTokenizePos.toInt = -1 ∨
    0 ≤ x.iTokenizePos.toInt ∧ x.iTokenizePos.toInt ≤ x.mStr.length
  pointer : ∀ found sVariable, (x.tokenizeVariable found sVariable).2 ≠ .pastText

/-- The cursor moved by the length of `s`, as an `int` holds it. -/
def movedCursor (x : LuaCstring) (s : String) : Int :=
  (x.iTokenizePos.toInt + (cStr s).length).bmod (2 ^ 32)

/-- The change leaves the cursor at a position of the text, or at -1. -/
def CursorSafe (x : LuaCstring) : StringOp → Prop
  | .makeUpper t => x.iTokenizePos.toInt ≤ t.length
  | .makeLower t => x.iTokenizePos.toInt ≤ t.length
  | .makeFullPath t => x.iTokenizePos.toInt ≤ t.length
  | .getEnvironment t => x.iTokenizePos.toInt ≤ t.length
  | .formatDate t => x.iTokenizePos.toInt ≤ t.length
  | .changeCharset t => x.iTokenizePos.toInt ≤ t.length
  | .changeCharsetToUTF8 t => x.iTokenizePos.toInt ≤ t.length
  | .changeCharsetToANSI t => x.iTokenizePos.toInt ≤ t.length
  | .append t => x.iTokenizePos.toInt ≤ t.length
  | .erase iPos iSize => ∀ i, stdPos iPos x.mStr.length = some i →
      x.iTokenizePos.toInt + stdCount iSize (x.mStr.length - i) ≤ x.mStr.length
  | .replace iPos iSize s => ∀ i, stdPos iPos x.mStr.length = some i →
      x.iTokenizePos.toInt + stdCount iSize (x.mStr.length - i) ≤
        x.mStr.length + (cStr s).length
  | .insert iPos s => iPos < x.iTokenizePos →
      movedCursor x s = -1 ∨
        0 ≤ movedCursor x s ∧ (iPos.toInt < 0 → movedCursor x s ≤ x.mStr.length)
  | .setTokenizeLuaPos iPos => iPos.toInt = -1 ∨ 0 ≤ iPos.toInt ∧ iPos.toInt ≤ x.mStr.length
  | _ => True

theorem stdPos_eq_some_iff {iPos : Int32} {n i : Nat} :
    stdPos iPos n = some i ↔ iPos.toInt = i ∧ i ≤ n := by
  unfold stdPos
  by_cases hin : 0 ≤ iPos.toInt ∧ iPos.toInt ≤ n
  · rw [if_pos hin, Option.some.injEq]
    omega
  · rw [if_neg hin]
    refine iff_of_false (Option.some_ne_none i).symm ?_
    omega

theorem stdPos_eq_none_iff {iPos : Int32} {n : Nat} :
    stdPos iPos n = none ↔ iPos.toInt < 0 ∨ n < iPos.toInt := by
  unfold stdPos
  split
  · refine iff_of_false (Option.some_ne_none _) ?_
    omega
  · refine iff_of_true rfl ?_
    omega

theorem stdCount_le (iSize : Int32) (n : Nat) : stdCount iSize n ≤ n := by
  unfold stdCount
  split
  · exact Nat.le_refl n
  · exact Nat.min_le_right _ n

theorem stdCount_zero (n : Nat) : stdCount 0 n = 0 := by
  have hzero : (0 : Int32).toInt = 0 := rfl
  rw [stdCount, hzero, if_neg (Int.lt_irrefl 0), Int.toNat_zero, Nat.zero_min]

/-- Replacing at a position of the text. -/
theorem stdReplace_ok {iPos : Int32} (iSize : Int32) (s : List Char) {text : List Char} {i : Nat}
    (hi : stdPos iPos text.length = some i) :
    ∃ t, stdReplace iPos iSize s text = .ok t ∧
      t = Splice.splice i (stdCount iSize (text.length - i)) s text ∧
      t.length + stdCount iSize (text.length - i) = text.length + s.length := by
  have hle := (stdPos_eq_some_iff.mp hi).2
  have hcount := stdCount_le iSize (text.length - i)
  refine ⟨_, ?_, rfl, ?_⟩
  · rw [stdReplace, hi]
  · rw [Splice.length_splice _ _ hle]
    omega

theorem stdReplace_error {iPos iSize : Int32} {s text : List Char}
    (hi : stdPos iPos text.length = none) : stdReplace iPos iSize s text = .error .outOfRange := by
  rw [stdReplace, hi]

section Inside

variable {x : LuaCstring}

/-- With the cursor where it should be, no pointer is past the text. -/
theorem cursorInside_iff (x : LuaCstring) : CursorInside x ↔ x.iTokenizePos.toInt = -1 ∨
    0 ≤ x.iTokenizePos.toInt ∧ x.iTokenizePos.toInt ≤ x.mStr.length := by
  refine ⟨fun h => h.cursor, fun h => ⟨h, fun found sVariable => ?_⟩⟩
  unfold LuaCstring.tokenizeVariable
  have hzero : (0 : Int32).toInt = 0 := rfl
  by_cases hpos : 0 ≤ x.iTokenizePos
  · rw [if_pos hpos]
    rw [Int32.le_iff_toInt_le, hzero] at hpos
    -- A cursor that is not negative is a position of the text, so `c_str()` plus it is.
    have hin : stdPos x.iTokenizePos x.mStr.length = some x.iTokenizePos.toInt.toNat :=
      stdPos_eq_some_iff.mpr (by omega)
    simp only [cStrFrom, hin, Option.map_some]
    split
    · split
      · exact TokenResult.noConfusion
      · exact TokenResult.noConfusion
    · exact TokenResult.noConfusion
  · rw [if_neg hpos]
    exact TokenResult.noConfusion

/-- A cursor that stays where it is has to be a position of the new text. -/
theorem inside_keep (hx : CursorInside x) (t : List Char) :
    CursorInside { x with mStr := t } ↔ x.iTokenizePos.toInt ≤ t.length := by
  have hcursor := hx.cursor
  rw [cursorInside_iff]
  simp only
  omega

theorem inside_reset (t : List Char) : CursorInside (x.through true t) := by
  rw [cursorInside_iff]
  refine Or.inr ⟨Int.le_refl 0, ?_⟩
  exact Int.natCast_nonneg t.length

theorem inside_through (hx : CursorInside x) (t : List Char) :
    CursorInside (x.through false t) ↔ x.iTokenizePos.toInt ≤ t.length :=
  inside_keep hx t

/-- Replacing at a position leaves the cursor where it is, in a text of the new
    length. -/
theorem inside_replace (hx : CursorInside x) (iPos iSize : Int32) (s : List Char) :
    CursorInside (x.store (stdReplace iPos iSize s x.mStr)).1 ↔
      ∀ i, stdPos iPos x.mStr.length = some i →
        x.iTokenizePos.toInt + stdCount iSize (x.mStr.length - i) ≤
          x.mStr.length + s.length := by
  cases hi : stdPos iPos x.mStr.length with
  | none =>
      -- The exception leaves the object as it was.
      rw [stdReplace_error hi]
      exact iff_of_true hx fun i h => absurd h (Option.some_ne_none i).symm
  | some i =>
      rcases stdReplace_ok iSize s hi with ⟨t, ht, _, hlen⟩
      have hkeep := inside_keep hx t
      rw [ht]
      simp only [Option.some.injEq, forall_eq']
      rw [LuaCstring.store, hkeep]
      omega

@[simp] theorem store_cursor (x : LuaCstring) (r : Except CxxException (List Char)) :
    (x.store r).1.iTokenizePos = x.iTokenizePos := by
  cases r with
  | error e => rfl
  | ok t => rfl

/-- A sum that does not fit an `int` is held as a smaller number. -/
theorem movedCursor_le (x : LuaCstring) (s : String) (hc : 0 ≤ x.iTokenizePos.toInt) :
    movedCursor x s ≤ x.iTokenizePos.toInt + (cStr s).length := by
  rw [movedCursor, Int.bmod_def]
  split
  · omega
  · omega

/-- The object whose text `insert` goes on with. -/
theorem insert_eq (x : LuaCstring) (iPos : Int32) (s : String) :
    x.insert iPos s =
      (if iPos < x.iTokenizePos then
          { x with iTokenizePos := x.iTokenizePos + Int32.ofNat (cStr s).length }
        else x).store (stdReplace iPos 0 (cStr s) x.mStr) := by
  unfold LuaCstring.insert stdInsert
  by_cases hlt : iPos < x.iTokenizePos
  · simp only [if_pos hlt]
  · simp only [if_neg hlt]

/-- The position need not be one the text has. -/
theorem insert_cursor (x : LuaCstring) (iPos : Int32) (s : String) :
    (x.insert iPos s).1.iTokenizePos.toInt =
      if iPos < x.iTokenizePos then movedCursor x s else x.iTokenizePos.toInt := by
  have hsize : (Int32.size : Nat) = 2 ^ 32 := rfl
  rw [insert_eq, store_cursor]
  by_cases hlt : iPos < x.iTokenizePos
  · rw [if_pos hlt, if_pos hlt, movedCursor, Int32.toInt_add, Int32.toInt_ofNat', hsize,
      Int.add_bmod_bmod]
  · rw [if_neg hlt, if_neg hlt]

/-- The text after an insertion, if the text has the position. -/
theorem insert_ok {iPos : Int32} (s : String) {i : Nat}
    (hi : stdPos iPos x.mStr.length = some i) :
    (x.insert iPos s).2 = .ok () ∧
      (x.insert iPos s).1.mStr = Splice.splice i 0 (cStr s) x.mStr := by
  rcases stdReplace_ok 0 (cStr s) hi with ⟨t, ht, hsplice, _⟩
  rw [stdCount_zero] at hsplice
  rw [insert_eq, ht, hsplice]
  exact ⟨rfl, rfl⟩

/-- An insertion that fails changes nothing but the cursor. -/
theorem insert_error {iPos : Int32} (s : String) (hi : stdPos iPos x.mStr.length = none) :
    (x.insert iPos s).2 = .error .outOfRange ∧
      (x.insert iPos s).1 = { x with iTokenizePos := (x.insert iPos s).1.iTokenizePos } := by
  rw [insert_eq, stdReplace_error hi]
  refine ⟨rfl, ?_⟩
  split
  · rfl
  · rfl

/-- An insertion in front of the cursor keeps it inside if it is moved to a position
    of the new text, or of the old one if there is no insertion. -/
theorem inside_insert (hx : CursorInside x) (iPos : Int32) (s : String) :
    CursorInside (x.insert iPos s).1 ↔ CursorSafe x (.insert iPos s) := by
  have hcursor := hx.cursor
  have hlt : iPos < x.iTokenizePos ↔ iPos.toInt < x.iTokenizePos.toInt := Int32.lt_iff_toInt_lt
  rw [cursorInside_iff, insert_cursor, CursorSafe]
  cases hi : stdPos iPos x.mStr.length with
  | none =>
      have hout := stdPos_eq_none_iff.mp hi
      have htext : (x.insert iPos s).1.mStr = x.mStr := by
        rw [(insert_error s hi).2]
      rw [htext]
      by_cases hbefore : iPos < x.iTokenizePos
      · -- The position is negative, and only the cursor changes.
        rw [if_pos hbefore]
        have hbefore' := hlt.mp hbefore
        simp only [hbefore, forall_const]
        omega
      · rw [if_neg hbefore]
        exact iff_of_true hcursor fun h => absurd h hbefore
  | some i =>
      have hpos := stdPos_eq_some_iff.mp hi
      have hlen := Splice.length_splice 0 (cStr s) hpos.2
      rw [(insert_ok s hi).2, hlen]
      by_cases hbefore : iPos < x.iTokenizePos
      · rw [if_pos hbefore]
        have hbefore' := hlt.mp hbefore
        have hmoved := movedCursor_le x s (by omega)
        -- It moves no further than the end does, so only its sign is in question.
        simp only [hbefore, forall_const]
        omega
      · rw [if_neg hbefore]
        refine iff_of_true ?_ fun h => absurd h hbefore
        omega

/-- A change keeps the cursor inside exactly when it is safe. -/
theorem cursorSafe_iff (hx : CursorInside x) (op : StringOp) :
    CursorInside (stringStep x op) ↔ CursorSafe x op := by
  -- The changes that leave the cursor come first, those that reset it last.
  cases op with
  | makeUpper t => exact inside_through hx t
  | makeLower t => exact inside_through hx t
  | makeFullPath t => exact inside_through hx t
  | getEnvironment t => exact inside_through hx t
  | formatDate t => exact inside_through hx t
  | changeCharset t => exact inside_through hx t
  | changeCharsetToUTF8 t => exact inside_through hx t
  | changeCharsetToANSI t => exact inside_through hx t
  | append t => exact inside_through hx t
  | erase iPos iSize => exact inside_replace hx iPos iSize []
  | replace iPos iSize s => exact inside_replace hx iPos iSize (cStr s)
  | insert iPos s => exact inside_insert hx iPos s
  | setTokenizeLuaPos iPos => exact cursorInside_iff _
  | readFile contents =>
      -- `ReadFile` has cleared the text, so the cursor is zero whatever is read.
      refine iff_of_true ?_ trivial
      cases contents with
      | none => exact inside_reset []
      | some t => exact (inside_through (inside_reset []) t).mpr (Int.natCast_nonneg t.length)
  | clear => exact iff_of_true (inside_reset []) trivial
  | set t => exact iff_of_true (inside_reset t) trivial
  | cutFront t => exact iff_of_true (inside_reset t) trivial
  | cutBack t => exact iff_of_true (inside_reset t) trivial
  | deleteFront t => exact iff_of_true (inside_reset t) trivial
  | deleteBack t => exact iff_of_true (inside_reset t) trivial
  | deleteBlock t => exact iff_of_true (inside_reset t) trivial
  | replaceAll t => exact iff_of_true (inside_reset t) trivial
  | replaceVariable t => exact iff_of_true (inside_reset t) trivial
  | trimLeft t => exact iff_of_true (inside_reset t) trivial
  | trimRight t => exact iff_of_true (inside_reset t) trivial
  | trim t => exact iff_of_true (inside_reset t) trivial

end Inside

/-- From a new object on, the cursor is inside the text in every state exactly when
    every change is safe where it is made. -/
theorem cursorInside_run (text : List Char) (ops : List StringOp) :
    Runs.Always stringStep CursorInside (LuaCstring.new text) ops ↔
      Runs.Each stringStep CursorSafe (LuaCstring.new text) ops := by
  have hstart : CursorInside (LuaCstring.new text) := by
    rw [cursorInside_iff]
    exact Or.inr ⟨Int.le_refl 0, Int.natCast_nonneg text.length⟩
  exact Runs.always_iff_each stringStep (I := fun _ => True) (fun _ _ _ => trivial)
    (fun x op _ hx => cursorSafe_iff hx op) ops (LuaCstring.new text) trivial hstart

/-- Erasing the text under the cursor. -/
theorem erase_under_cursor :
    ¬ Runs.Always stringStep CursorInside (LuaCstring.new ['a', 'b', 'c'])
        [.setTokenizeLuaPos 3, .erase 0 3] := by
  intro h
  have hend := (h [.setTokenizeLuaPos 3, .erase 0 3] [] rfl).pointer 0 []
  exact hend (by decide)

end QemuTestdrive
