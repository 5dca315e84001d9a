import QemuTestdrive.Core.Log
import QemuTestdrive.Lib.Runs

/-!
# The Colour of the Console

What is left of a colour that `LOG` has set. The flag that keeps the colour is set
at the `^` of a prefix, before the digit has been looked at. If there is no digit,
the prefix is not one and is printed with the text, but the flag stays, and for a
warning or an error, which have a colour of their own, that colour is kept.

A call reads the state only to see whether messages are suppressed, and changes
the colour by its own output alone. So what one call does is a condition on its
mode and format and on the colour before it, and `each_congr` carries it to any
sequence of calls.

## Main definitions

* `LogState.colour`: The colour the console is in.
* `PreservePrefix`, `HalfPrefix`: Prefixes that keep the colour, and begin to.
* `ColourKept`: A call uses the table inside its bounds and resets the colour.
* `PrefixSettled`: A call whose prefix is not half of one, where that matters.

## Theorems

* `colorId_bounds`: Every index used is in the table.
* `keeps_iff`: The formats and modes that leave a colour.
* `colour_log`: The colour after a call.
* `colourKept_run`: When no call of a sequence leaves a colour behind.
-/

namespace QemuTestdrive

/-- The colour of the console after an output. -/
def Output.paint (c : Option Int) : Output → Option Int
  | .color colorId => some colorId
  | .reset => none
  | _ => c

/-- The colour the console is in, which is none in the reset state. -/
def LogState.colour (x : LogState) : Option Int :=
  x.console.foldl Output.paint none

/-- The characters a colour prefix begins with. -/
def PrefixChar (c : Char) : Prop :=
  c = '*' ∨ c = '@'

/-- The digits that stand for a colour. -/
def ColourDigit (c : Char) : Prop :=
  '0' ≤ c ∧ c ≤ '6'

/-- The format begins with a complete prefix that preserves the colour. -/
def PreservePrefix (s : List Char) : Prop :=
  PrefixChar (charAt s 0) ∧ charAt s 1 = '^' ∧ ColourDigit (charAt s 2)

/-- The format begins like such a prefix, without its digit. -/
def HalfPrefix (s : List Char) : Prop :=
  PrefixChar (charAt s 0) ∧ charAt s 1 = '^' ∧ ¬ ColourDigit (charAt s 2)

/-- A call of `LOG` looks up only colours of the table. It leaves the console reset
    if it was, unless it is suppressed or its format preserves the colour. -/
structure ColourKept (x : LogState) (op : LogOp) : Prop where
  index : ∀ out, (logStep x op).console = x.console ++ out →
    ∀ colorId, .color colorId ∈ out → 0 ≤ colorId ∧ colorId ≤ 6
  reset : ∀ id s vsnprintf, op = .log id (some s) vsnprintf → x.logSupress = false →
    ¬ PreservePrefix s → x.colour = none → (logStep x op).colour = none

/-- A warning or an error that is not suppressed does not begin with half a prefix
    while the console is reset. -/
def PrefixSettled (x : LogState) (op : LogOp) : Prop :=
  ∀ id s vsnprintf, op = .log id (some s) vsnprintf → x.logSupress = false →
    x.colour = none → id ≠ .info → ¬ HalfPrefix s

theorem colourDigit_iff (c : Char) :
    0 ≤ (c.toNat : Int) - '0'.toNat ∧ (c.toNat : Int) - '0'.toNat ≤ 6 ↔ ColourDigit c := by
  have hle : ∀ a b : Char, a ≤ b ↔ a.toNat ≤ b.toNat := fun a b => UInt32.le_iff_toNat_le
  have hzero : '0'.toNat = 48 := rfl
  have hsix : '6'.toNat = 54 := rfl
  rw [ColourDigit, hle, hle, hzero, hsix]
  omega

section Flags

/-- The character of a prefix that has to be its digit. -/
def prefixDigit (s : List Char) : Char :=
  charAt s (if charAt s 1 = '^' then 2 else 1)

variable (id : LogMode) (s : List Char)

/-- The flags of `LOG`, by what the format begins with: a prefix with its digit, one
    without, or none. -/
theorem logColor_cases :
    PrefixChar (charAt s 0) ∧ ColourDigit (prefixDigit s) ∧ logColor id s =
      { colorId := (prefixDigit s).toNat - '0'.toNat, bCustom := charAt s 0 = '@', bColor := true
        bPreserveColor := charAt s 1 = '^'
        sFormat := s.drop (if charAt s 1 = '^' then 3 else 2) } ∨
    PrefixChar (charAt s 0) ∧ ¬ ColourDigit (prefixDigit s) ∧ logColor id s =
      { colorId := id.toInt, bCustom := charAt s 0 = '@', bColor := id ≠ .info
        bPreserveColor := charAt s 1 = '^', sFormat := s } ∨
    ¬ PrefixChar (charAt s 0) ∧ logColor id s =
      { colorId := id.toInt, bCustom := false, bColor := id ≠ .info, bPreserveColor := false
        sFormat := s } := by
  unfold logColor
  simp only [decide_eq_true_eq]
  by_cases hstart : PrefixChar (charAt s 0)
  · have hmark : charAt s 0 = '*' ∨ charAt s 0 = '@' := hstart
    rw [if_pos hmark]
    by_cases hdigit : ColourDigit (prefixDigit s)
    · -- Only a digit lets the source go on to skip the prefix.
      exact Or.inl ⟨hstart, hdigit, if_pos ((colourDigit_iff _).mpr hdigit)⟩
    · refine Or.inr (Or.inl ⟨hstart, hdigit, if_neg fun h => hdigit ((colourDigit_iff _).mp h)⟩)
  · exact Or.inr (Or.inr ⟨hstart, if_neg hstart⟩)

/-- Every index used in the table of colours is one of its seven. -/
theorem colorId_bounds : 0 ≤ (logColor id s).colorId ∧ (logColor id s).colorId ≤ 6 := by
  have hmode : 0 ≤ id.toInt ∧ id.toInt ≤ 6 := by cases id <;> decide
  rcases logColor_cases id s with ⟨_, hdigit, hc⟩ | ⟨_, _, hc⟩ | ⟨_, hc⟩
  · rw [hc]
    exact (colourDigit_iff _).mpr hdigit
  · rw [hc]
    exact hmode
  · rw [hc]
    exact hmode

/-- `LOG` leaves its colour for a prefix that says so, and for a warning or an error
    that begins with half of one. -/
theorem keeps_iff :
    ((logColor id s).bColor && (logColor id s).bPreserveColor) = true ↔
      PreservePrefix s ∨ id ≠ .info ∧ HalfPrefix s := by
  unfold PreservePrefix HalfPrefix
  have hdigit : charAt s 1 = '^' → prefixDigit s = charAt s 2 := fun h => by
    rw [prefixDigit, if_pos h]
  rcases logColor_cases id s with ⟨hstart, hd, hc⟩ | ⟨hstart, hd, hc⟩ | ⟨hstart, hc⟩
  · -- With its digit the prefix sets the colour, whatever the mode.
    rw [hc, Bool.true_and, decide_eq_true_iff]
    constructor
    · intro hcaret
      exact Or.inl ⟨hstart, hcaret, hdigit hcaret ▸ hd⟩
    · rintro (⟨_, hcaret, _⟩ | ⟨_, _, hcaret, _⟩)
      · exact hcaret
      · exact hcaret
  · -- Without it the colour is the mode's, but the `^` has been seen.
    rw [hc, Bool.and_eq_true, decide_eq_true_iff, decide_eq_true_iff]
    constructor
    · rintro ⟨hmode, hcaret⟩
      exact Or.inr ⟨hmode, hstart, hcaret, hdigit hcaret ▸ hd⟩
    · rintro (⟨_, hcaret, hcomplete⟩ | ⟨hmode, _, hcaret, _⟩)
      · exact absurd (hdigit hcaret ▸ hcomplete) hd
      · exact ⟨hmode, hcaret⟩
  · rw [hc, Bool.and_false]
    refine iff_of_false Bool.false_ne_true ?_
    rintro (⟨hmark, _⟩ | ⟨_, hmark, _⟩)
    · exact hstart hmark
    · exact hstart hmark

/-- The colour after what `LOG` prints on a console that is reset. -/
theorem paint_logOutput (vsnprintf : List Char → Option (List Char)) :
    (logOutput id s vsnprintf).foldl Output.paint none =
      if ((logColor id s).bColor && (logColor id s).bPreserveColor) = true then
        some (logColor id s).colorId
      else none := by
  unfold logOutput
  simp only
  generalize logColor id s = c
  have htext : ∀ colour, Output.paint colour (logText id c.bCustom (vsnprintf c.sFormat)) =
      colour := by
    intro colour
    cases vsnprintf c.sFormat with
    | _ => rfl
  -- Of the three parts of the output only the first and the last touch the colour.
  rw [List.foldl_append, List.foldl_append, List.foldl_cons, List.foldl_nil, htext]
  cases c.bColor with
  | false => rfl
  | true =>
      cases c.bPreserveColor with
      | false => rfl
      | true => rfl

end Flags

/-- A call that is not suppressed, and has a format, adds its output. -/
theorem console_log {x : LogState} (hx : x.logSupress = false) (id : LogMode) (s : List Char)
    (vsnprintf : List Char → Option (List Char)) :
    (x.LOG id (some s) vsnprintf).console = x.console ++ logOutput id s vsnprintf := by
  rw [LogState.LOG, if_neg (Bool.eq_false_iff.mp hx)]

/-- A call adds nothing to the console, or the output of a format. -/
theorem console_step (x : LogState) (op : LogOp) :
    (logStep x op).console = x.console ∨
      ∃ id s vsnprintf, (logStep x op).console = x.console ++ logOutput id s vsnprintf := by
  cases op with
  | suppress bSuppress => exact Or.inl rfl
  | log id sFormat vsnprintf =>
      by_cases hx : x.logSupress = true
      · left
        unfold logStep LogState.LOG
        simp only [if_pos hx]
      · rw [Bool.not_eq_true] at hx
        cases sFormat with
        | none =>
            left
            rw [logStep, LogState.LOG, if_neg (Bool.eq_false_iff.mp hx)]
            cases id with
            | _ => rfl
        | some s => exact Or.inr ⟨id, s, _, console_log hx id s _⟩

/-- The colour after a call that is not suppressed, if the console was reset. -/
theorem colour_log {x : LogState} (hx : x.logSupress = false) (hreset : x.colour = none)
    (id : LogMode) (s : List Char) (vsnprintf : List Char → Option (List Char)) :
    (x.LOG id (some s) vsnprintf).colour = none ↔
      ¬ (PreservePrefix s ∨ id ≠ .info ∧ HalfPrefix s) := by
  have hcolour : (x.LOG id (some s) vsnprintf).colour =
      (logOutput id s vsnprintf).foldl Output.paint none := by
    unfold LogState.colour at hreset ⊢
    rw [console_log hx, List.foldl_append, hreset]
  rw [hcolour, paint_logOutput, ← keeps_iff]
  split
  · rename_i hkeep
    exact iff_of_false (Option.some_ne_none _) fun h => h hkeep
  · rename_i hkeep
    exact iff_of_true rfl hkeep

/-- The colours a call sends to the console are of the table. -/
theorem logOutput_index {id : LogMode} {s : List Char}
    {vsnprintf : List Char → Option (List Char)} {colorId : Int}
    (h : Output.color colorId ∈ logOutput id s vsnprintf) : 0 ≤ colorId ∧ colorId ≤ 6 := by
  have hbounds := colorId_bounds id s
  unfold logOutput at h
  simp only [List.mem_append] at h
  rcases h with (h | h) | h
  · split at h
    · rw [List.mem_singleton, Output.color.injEq] at h
      rw [h]
      exact hbounds
    · exact absurd h List.not_mem_nil
  · rw [List.mem_singleton] at h
    unfold logText at h
    split at h
    · exact Output.noConfusion h
    · exact Output.noConfusion h
  · split at h
    · exact Output.noConfusion (List.mem_singleton.mp h)
    · exact absurd h List.not_mem_nil

/-- One call leaves no colour behind exactly when its prefix is settled. -/
theorem colourKept_iff (x : LogState) (op : LogOp) : ColourKept x op ↔ PrefixSettled x op := by
  constructor
  · rintro h id s vsnprintf rfl hx hreset hmode hhalf
    have hnone := h.reset id s vsnprintf rfl hx (fun hp => hhalf.2.2 hp.2.2) hreset
    exact (colour_log hx hreset id s _).mp hnone (Or.inr ⟨hmode, hhalf⟩)
  · intro h
    refine ⟨fun out hout colorId hmem => ?_, ?_⟩
    · -- What a call has sent is nothing, or the output of one format.
      rcases console_step x op with hsame | ⟨id, s, vsnprintf, hadded⟩
      · rw [hsame, List.self_eq_append_right] at hout
        rw [hout] at hmem
        exact absurd hmem List.not_mem_nil
      · rw [hadded, List.append_cancel_left_eq] at hout
        rw [← hout] at hmem
        exact logOutput_index hmem
    · rintro id s vsnprintf rfl hx hpres hreset
      refine (colour_log hx hreset id s _).mpr ?_
      rintro (hp | ⟨hmode, hhalf⟩)
      · exact hpres hp
      · exact h id s vsnprintf rfl hx hreset hmode hhalf

/-- No call of a sequence leaves a colour behind exactly when the prefix of each is
    settled. -/
theorem colourKept_run (x : LogState) (ops : List LogOp) :
    Runs.Each logStep ColourKept x ops ↔ Runs.Each logStep PrefixSettled x ops :=
  Runs.each_congr logStep (I := fun _ => True) (fun _ _ _ => trivial)
    (fun y op _ => colourKept_iff y op) x ops trivial

/-- A warning that begins with half a prefix leaves its yellow behind. -/
theorem half_prefix_keeps :
    ¬ Runs.Each logStep ColourKept
        { logSupress := false, gLogWarningCount := 0, gLogErrorCount := 0, console := [] }
        [.log .warning (some ['*', '^', 'x']) fun s => s] := by
  intro h
  have hkept := h [] _ [] rfl
  have hdigit : ¬ ColourDigit 'x' := by unfold ColourDigit; decide
  have hreset := hkept.reset .warning ['*', '^', 'x'] (fun s => s) rfl rfl
    (fun hp => hdigit hp.2.2) rfl
  exact absurd hreset (by decide)

end QemuTestdrive
