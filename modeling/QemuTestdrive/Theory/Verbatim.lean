import Mathlib.Data.List.TakeWhile
import QemuTestdrive.Theory.Console

/-!
# What a Script's Message Becomes

The functions scripts log with hand their text to `LOG` in the place of its
format. A colour prefix at its front is taken off, which is what a script asks for
by it. But a `%` anywhere behind is a conversion: `%%` comes out as one character,
and any other has no argument to convert.

Without a `%` formatting changes nothing, and with one the result is shorter than
the text, if there is any. A script's string can also hold a NUL, which the
functions never see.

## Main definitions

* `ColourPrefix`: A complete colour prefix.
* `PrintedVerbatim`: A script's message is printed as it is.
* `PlainText`: The texts without conversions.

## Theorems

* `logColor_append`, `logColor_sFormat`: The prefix `LOG` takes off.
* `vsnprintfNone_plain`, `vsnprintfNone_spec`: Formatting without arguments.
* `verbatim_formatted`: What a message printed as it is was formatted to.
* `printedVerbatim_iff`: When a message is printed as it is.
-/

namespace QemuTestdrive

/-- A complete colour prefix. -/
inductive ColourPrefix : List Char → Prop where
  | plain {c d : Char} (hc : PrefixChar c) (hd : ColourDigit d) : ColourPrefix [c, d]
  | preserve {c d : Char} (hc : PrefixChar c) (hd : ColourDigit d) : ColourPrefix [c, '^', d]

/-- What only controls the colour. -/
def Output.isControl : Output → Bool
  | .color _ => true
  | .reset => true
  | _ => false

/-- A message of a script prints one text besides colour control, which is the
    script's own, without a colour prefix, between the mode and the newline it gets
    unless it begins with `@`. -/
def PrintedVerbatim (toANSI : List Char → List Char) (id : LogMode) (sLog : String) : Prop :=
  ∀ x : LogState, x.logSupress = false → ∃ p t, (p = [] ∨ ColourPrefix p) ∧
    sLog.toList = p ++ t ∧ ∃ out, (scriptLog toANSI id sLog x).console = x.console ++ out ∧
      out.filter (fun o => !o.isControl) =
        [.text (if charAt sLog.toList 0 = '@' then t else id.sID ++ t ++ ['\n'])]

/-- The text has neither NUL nor `%`, and the console's charset has it as it is. -/
structure PlainText (toANSI : List Char → List Char) (sLog : String) : Prop where
  noNul : '\x00' ∉ sLog.toList
  noPercent : '%' ∉ sLog.toList
  kept : toANSI sLog.toList = sLog.toList

def IsASCII (s : List Char) : Prop :=
  ∀ c ∈ s, c.toNat < 128

/-- The conversion leaves ASCII text unchanged. -/
def KeepsASCII (toANSI : List Char → List Char) : Prop :=
  ∀ s, IsASCII s → toANSI s = s

theorem nul_not_digit : ¬ ColourDigit '\x00' := by
  unfold ColourDigit
  decide

theorem caret_not_digit : ¬ ColourDigit '^' := by
  unfold ColourDigit
  decide

/-- A complete prefix is what `LOG` takes off. -/
theorem logColor_append {p : List Char} (hp : ColourPrefix p) (id : LogMode) (t : List Char) :
    (logColor id (p ++ t)).sFormat = t := by
  have hstart : PrefixChar (charAt (p ++ t) 0) := by
    cases hp with
    | plain hc _ => exact hc
    | preserve hc _ => exact hc
  have hdigit : ColourDigit (prefixDigit (p ++ t)) ∧
      (p ++ t).drop (if charAt (p ++ t) 1 = '^' then 3 else 2) = t := by
    unfold prefixDigit
    cases hp with
    | @plain c d hc hd =>
        have hne : ¬ charAt ([c, d] ++ t) 1 = '^' := by
          intro hcaret
          have hd' : d = '^' := hcaret
          exact caret_not_digit (hd' ▸ hd)
        rw [if_neg hne, if_neg hne]
        exact ⟨hd, rfl⟩
    | @preserve c d hc hd =>
        have hcaret : charAt ([c, '^', d] ++ t) 1 = '^' := rfl
        rw [if_pos hcaret, if_pos hcaret]
        exact ⟨hd, rfl⟩
  rcases logColor_cases id (p ++ t) with ⟨_, _, hc⟩ | ⟨_, hd, _⟩ | ⟨hs, _⟩
  · rw [hc]
    exact hdigit.2
  · exact absurd hdigit.1 hd
  · exact absurd hstart hs

/-- `LOG` takes off a complete prefix or nothing. -/
theorem logColor_sFormat (id : LogMode) (s : List Char) :
    ∃ p, (p = [] ∨ ColourPrefix p) ∧ s = p ++ (logColor id s).sFormat := by
  rcases logColor_cases id s with ⟨hstart, hdigit, hc⟩ | ⟨_, _, hc⟩ | ⟨_, hc⟩
  · rw [hc]
    unfold prefixDigit at hdigit
    -- The digit is a character of the format, and so is what comes before it.
    rcases s with _ | ⟨a, _ | ⟨b, s⟩⟩
    · exact absurd hdigit nul_not_digit
    · have hne : ¬ charAt [a] 1 = '^' := by
        change ¬ '\x00' = '^'
        decide
      rw [if_neg hne] at hdigit
      exact absurd hdigit nul_not_digit
    · by_cases hb : b = '^'
      · have hcaret : charAt (a :: b :: s) 1 = '^' := hb
        rw [if_pos hcaret] at hdigit ⊢
        rcases s with _ | ⟨d, t⟩
        · exact absurd hdigit nul_not_digit
        · rw [hb]
          exact ⟨[a, '^', d], Or.inr (.preserve hstart hdigit), rfl⟩
      · have hne : ¬ charAt (a :: b :: s) 1 = '^' := hb
        rw [if_neg hne] at hdigit ⊢
        exact ⟨[a, b], Or.inr (.plain hstart hdigit), rfl⟩
  · exact ⟨[], Or.inl rfl, by rw [hc, List.nil_append]⟩
  · exact ⟨[], Or.inl rfl, by rw [hc, List.nil_append]⟩

theorem logColor_bCustom (id : LogMode) (s : List Char) :
    (logColor id s).bCustom = decide (charAt s 0 = '@') := by
  rcases logColor_cases id s with ⟨_, _, hc⟩ | ⟨_, _, hc⟩ | ⟨hstart, hc⟩
  · rw [hc]
  · rw [hc]
  · rw [hc]
    exact (decide_eq_false fun h => hstart (Or.inr h)).symm

/-- A text without `%` is printed as it is. -/
theorem vsnprintfNone_plain {s : List Char} (h : '%' ∉ s) : vsnprintfNone s = some s := by
  induction s with
  | nil => rfl
  | cons c s ih =>
      rw [List.mem_cons, not_or] at h
      rw [vsnprintfNone.eq_3, if_neg (fun hc => h.1 hc.symm), ih h.2]
      · rfl
      · intro s' hc _
        exact h.1 hc.symm

/-- What is printed is made of characters of the format, and it is shorter if there
    is a `%`. -/
theorem vsnprintfNone_spec (s : List Char) : ∀ t, vsnprintfNone s = some t →
    (∀ c ∈ t, c ∈ s) ∧ t.length ≤ s.length ∧ ('%' ∈ s → t.length < s.length) := by
  fun_induction vsnprintfNone s with
  | case1 =>
      intro t ht
      rw [← Option.some.inj ht]
      exact ⟨fun c hc => hc, Nat.le_refl _, fun h => absurd h List.not_mem_nil⟩
  | case2 s ih =>
      intro t ht
      rcases Option.map_eq_some_iff.mp ht with ⟨u, hu, rfl⟩
      rcases ih u hu with ⟨hmem, hle, _⟩
      refine ⟨fun c hc => ?_, ?_, fun _ => ?_⟩
      · rcases List.mem_cons.mp hc with rfl | hc
        · exact List.mem_cons_self
        · exact List.mem_cons_of_mem _ (List.mem_cons_of_mem _ (hmem c hc))
      · simp only [List.length_cons]
        omega
      · simp only [List.length_cons]
        omega
  | case3 s =>
      intro t ht
      exact absurd ht (Option.some_ne_none t).symm
  | case4 c s hnot hc ih =>
      intro t ht
      rcases Option.map_eq_some_iff.mp ht with ⟨u, hu, rfl⟩
      rcases ih u hu with ⟨hmem, hle, hlt⟩
      refine ⟨fun e he => ?_, ?_, fun hper => ?_⟩
      · rcases List.mem_cons.mp he with rfl | he
        · exact List.mem_cons_self
        · exact List.mem_cons_of_mem _ (hmem e he)
      · exact Nat.succ_le_succ hle
      · rcases List.mem_cons.mp hper with hper | hper
        · exact absurd hper.symm hc
        · exact Nat.succ_lt_succ (hlt hper)

/-- There is neither NUL nor `%` in a prefix. -/
theorem colourPrefix_plain {p : List Char} (hp : p = [] ∨ ColourPrefix p) :
    '\x00' ∉ p ∧ '%' ∉ p := by
  have hmark : ¬ PrefixChar '\x00' ∧ ¬ PrefixChar '%' := by unfold PrefixChar; decide
  have hdigit : ¬ ColourDigit '%' := by unfold ColourDigit; decide
  have hcaret : '\x00' ≠ '^' ∧ '%' ≠ '^' := by decide
  rcases hp with rfl | hp
  · exact ⟨List.not_mem_nil, List.not_mem_nil⟩
  · cases hp with
    | @plain c d hc hd =>
        simp only [List.mem_cons, List.not_mem_nil, or_false, not_or]
        refine ⟨⟨?_, ?_⟩, ?_, ?_⟩
        · rintro rfl
          exact hmark.1 hc
        · rintro rfl
          exact nul_not_digit hd
        · rintro rfl
          exact hmark.2 hc
        · rintro rfl
          exact hdigit hd
    | @preserve c d hc hd =>
        simp only [List.mem_cons, List.not_mem_nil, or_false, not_or]
        refine ⟨⟨?_, hcaret.1, ?_⟩, ?_, hcaret.2, ?_⟩
        · rintro rfl
          exact hmark.1 hc
        · rintro rfl
          exact nul_not_digit hd
        · rintro rfl
          exact hmark.2 hc
        · rintro rfl
          exact hdigit hd

/-- Besides colour control, `LOG` prints one thing. -/
theorem logOutput_text (id : LogMode) (s : List Char)
    (vsnprintf : List Char → Option (List Char)) :
    (logOutput id s vsnprintf).filter (fun o => !o.isControl) =
      [logText id (logColor id s).bCustom (vsnprintf (logColor id s).sFormat)] := by
  unfold logOutput
  simp only
  generalize logColor id s = c
  have htext : (logText id c.bCustom (vsnprintf c.sFormat)).isControl = false := by
    cases vsnprintf c.sFormat with
    | _ => rfl
  rw [List.filter_append, List.filter_append, List.filter_cons_of_pos (by rw [htext]; rfl)]
  cases c.bColor with
  | false => rfl
  | true =>
      cases c.bPreserveColor with
      | _ => rfl

theorem takeWhile_nul {l : List Char} (h : '\x00' ∉ l) : l.takeWhile (· ≠ '\x00') = l := by
  refine List.takeWhile_eq_self_iff.mpr fun c hc => decide_eq_true ?_
  rintro rfl
  exact h hc

theorem charAt_cStr (s : String) : charAt (cStr s) 0 = charAt s.toList 0 := by
  unfold cStr
  cases s.toList with
  | nil => rfl
  | cons c l =>
      by_cases hc : c = '\x00'
      · subst hc
        rfl
      · have hkeep : (c :: l).takeWhile (· ≠ '\x00') = c :: l.takeWhile (· ≠ '\x00') :=
          List.takeWhile_cons_of_pos (decide_eq_true hc)
        rw [hkeep]
        rfl

/-- What a message prints besides colour control, by the format it becomes. -/
theorem scriptLog_text (toANSI : List Char → List Char) (id : LogMode) (sLog : String)
    {x : LogState} (hx : x.logSupress = false) {u : List Char}
    (hu : (toANSI (cStr sLog)).takeWhile (· ≠ '\x00') = u) :
    ∃ out, (scriptLog toANSI id sLog x).console = x.console ++ out ∧
      out.filter (fun o => !o.isControl) =
        [logText id (decide (charAt u 0 = '@')) (vsnprintfNone (logColor id u).sFormat)] := by
  refine ⟨logOutput id u vsnprintfNone, ?_, ?_⟩
  · rw [scriptLog, hu, console_log hx]
  · rw [logOutput_text, logColor_bCustom]

section Verbatim

variable {toANSI : List Char → List Char} {id : LogMode} {sLog : String}

/-- A plain text is printed as it is. -/
theorem printedVerbatim_plain (h : PlainText toANSI sLog) : PrintedVerbatim toANSI id sLog := by
  intro x hx
  have hfmt : (toANSI (cStr sLog)).takeWhile (· ≠ '\x00') = sLog.toList := by
    rw [cStr, takeWhile_nul h.noNul, h.kept, takeWhile_nul h.noNul]
  rcases logColor_sFormat id sLog.toList with ⟨p, hp, hsplit⟩
  rcases scriptLog_text toANSI id sLog hx hfmt with ⟨out, hout, htext⟩
  refine ⟨p, (logColor id sLog.toList).sFormat, hp, hsplit, out, hout, ?_⟩
  have hplain : '%' ∉ (logColor id sLog.toList).sFormat := by
    intro hmem
    refine h.noPercent ?_
    rw [hsplit]
    exact List.mem_append_right p hmem
  rw [htext, vsnprintfNone_plain hplain, logText]
  simp only [decide_eq_true_eq]

/-- The conversion leaves what `LOG` is given of an ASCII text. -/
theorem unconverted_of_ascii (hansi : KeepsASCII toANSI) (hascii : IsASCII sLog.toList) :
    toANSI (cStr sLog) = cStr sLog :=
  hansi _ fun c hc => hascii c (List.takeWhile_subset _ hc)

/-- The text printed for a message the conversion leaves is what formatting makes of
    it without its colour prefix. -/
theorem verbatim_formatted (hkept : toANSI (cStr sLog) = cStr sLog)
    (h : PrintedVerbatim toANSI id sLog) : ∃ p t, (p = [] ∨ ColourPrefix p) ∧
      sLog.toList = p ++ t ∧ vsnprintfNone (logColor id (cStr sLog)).sFormat = some t := by
  have hfmt : (toANSI (cStr sLog)).takeWhile (· ≠ '\x00') = cStr sLog := by
    have hnul : '\x00' ∉ cStr sLog := by
      intro hmem
      have hpass := List.mem_takeWhile_imp hmem
      exact absurd hpass (by decide)
    rw [hkept, takeWhile_nul hnul]
  -- Any console will do to see what is printed.
  let x : LogState :=
    { logSupress := false, gLogWarningCount := 0, gLogErrorCount := 0, console := [] }
  rcases h x rfl with ⟨p, t, hp, hsplit, out, hout, htext⟩
  rcases scriptLog_text toANSI id sLog (x := x) rfl hfmt with ⟨out', hout', htext'⟩
  have hsame : out = out' := List.append_cancel_left (hout.symm.trans hout')
  rw [hsame, htext', List.singleton_inj, charAt_cStr] at htext
  refine ⟨p, t, hp, hsplit, ?_⟩
  cases hv : vsnprintfNone (logColor id (cStr sLog)).sFormat with
  | none =>
      -- An undefined conversion prints no text at all.
      rw [hv] at htext
      exact Output.noConfusion htext
  | some t' =>
      rw [hv, logText, Output.text.injEq] at htext
      simp only [decide_eq_true_eq] at htext
      rw [Option.some.injEq]
      by_cases hcustom : charAt sLog.toList 0 = '@'
      · rw [if_pos hcustom, if_pos hcustom] at htext
        exact htext
      · rw [if_neg hcustom, if_neg hcustom] at htext
        exact List.append_cancel_left (List.append_cancel_right htext)

/-- A text that is printed as it is is plain, if the conversion leaves it. -/
theorem plain_of_printedVerbatim (hkept : toANSI (cStr sLog) = cStr sLog)
    (h : PrintedVerbatim toANSI id sLog) : PlainText toANSI sLog := by
  rcases verbatim_formatted hkept h with ⟨p, t, hp, hsplit, hprinted⟩
  rcases vsnprintfNone_spec _ t hprinted with ⟨hmem, _, hshorter⟩
  rcases logColor_sFormat id (cStr sLog) with ⟨q, hq, hrest⟩
  -- A NUL would be in the text printed, and `LOG` sees none.
  have hnul : '\x00' ∉ sLog.toList := by
    rw [hsplit, List.mem_append, not_or]
    refine ⟨(colourPrefix_plain hp).1, fun ht => ?_⟩
    have hcut : '\x00' ∈ cStr sLog := by
      rw [hrest]
      exact List.mem_append_right q (hmem _ ht)
    exact absurd (List.mem_takeWhile_imp hcut) (by decide)
  have hwhole : cStr sLog = sLog.toList := takeWhile_nul hnul
  rw [hwhole] at hrest hshorter hkept
  refine ⟨hnul, fun hper => ?_, hkept⟩
  have hper' : '%' ∈ (logColor id sLog.toList).sFormat := by
    rw [hrest] at hper
    exact (List.mem_append.mp hper).resolve_left (colourPrefix_plain hq).2
  have hlt := hshorter hper'
  rcases hp with rfl | hp
  · -- The whole text is printed, which is no shorter than the format.
    have hlen := congrArg List.length (hsplit.symm.trans hrest)
    rw [List.length_append, List.length_append, List.length_nil] at hlen
    omega
  · -- The prefix is the one that `LOG` has taken off.
    rw [hsplit, logColor_append hp] at hlt
    exact Nat.lt_irrefl _ hlt

end Verbatim

/-- A message is printed as it is if its text is plain, and only then if the
    conversion leaves the text, as it does with an ASCII text. -/
theorem printedVerbatim_iff (toANSI : List Char → List Char) (hansi : KeepsASCII toANSI)
    (id : LogMode) (sLog : String) :
    (PlainText toANSI sLog → PrintedVerbatim toANSI id sLog) ∧
      (toANSI (cStr sLog) = cStr sLog → PrintedVerbatim toANSI id sLog →
        PlainText toANSI sLog) ∧
      (IsASCII sLog.toList →
        (PrintedVerbatim toANSI id sLog ↔ '\x00' ∉ sLog.toList ∧ '%' ∉ sLog.toList)) := by
  refine ⟨printedVerbatim_plain, plain_of_printedVerbatim, fun hascii => ?_⟩
  refine ⟨fun h => ?_, fun h => ?_⟩
  · have hplain := plain_of_printedVerbatim (unconverted_of_ascii hansi hascii) h
    exact ⟨hplain.noNul, hplain.noPercent⟩
  · exact printedVerbatim_plain ⟨h.1, h.2, hansi _ hascii⟩

theorem printedVerbatim_done :
    (PlainText (fun s => s) "done" → PrintedVerbatim (fun s => s) .info "done") ∧
      ((fun s => s) (cStr "done") = cStr "done" → PrintedVerbatim (fun s => s) .info "done" →
        PlainText (fun s => s) "done") ∧
      (IsASCII "done".toList →
        (PrintedVerbatim (fun s => s) .info "done" ↔
          '\x00' ∉ "done".toList ∧ '%' ∉ "done".toList)) :=
  printedVerbatim_iff (fun s => s) (fun _ _ => rfl) .info "done"

/-- A per cent sign at the end of a message is a conversion of an argument that is
    not there. -/
theorem percent_undefined :
    (scriptLOGI (fun s => s) "100%"
        { logSupress := false, gLogWarningCount := 0, gLogErrorCount := 0
          console := [] }).console = [.undefined] ∧
      ¬ PrintedVerbatim (fun s => s) .info "100%" := by
  refine ⟨by decide, fun h => ?_⟩
  have hplain := plain_of_printedVerbatim rfl h
  exact hplain.noPercent (by decide)

end QemuTestdrive
