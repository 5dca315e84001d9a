import Mathlib.Tactic.Common

/-!
# Marks at Places

A lock can be kept as a mark at a place: who finds no mark leaves one and holds
the place, and takes it away again when he is done. Others see the marks and not
the holders, so it works as long as a place is marked exactly when it is held.

`Accurate` says so, for holders with numbers. Leaving a mark where there is none
keeps it, and so does giving up a place together with its mark. A holder that
goes away and leaves the mark breaks it, whatever else happens at other places.

## Main definitions

* `Accurate`: The marked places are those that are held, each by one holder.

## Theorems

* `Accurate.grant`: A place without a mark is marked and held.
* `Accurate.giveBack`: A place is given up together with its mark.
* `Accurate.not_of_left`: A mark that is left behind.
-/

namespace Marks

variable {ι : Type*}

/-- The marked places are those that are held, and no place is held twice. `place`
    is what each holder holds. -/
structure Accurate (marked : ι → Prop) (place : Nat → Option ι) : Prop where
  marked_iff : ∀ d, marked d ↔ ∃ l, place l = some d
  exclusive : ∀ l l' d, place l = some d → place l' = some d → l = l'

section Accurate

variable {marked marked' : ι → Prop} {place place' : Nat → Option ι}

theorem Accurate.congr (h : Accurate marked place) (hmarked : ∀ d, marked' d ↔ marked d)
    (hplace : ∀ l, place' l = place l) : Accurate marked' place' := by
  have heq : place' = place := funext hplace
  rw [heq]
  exact ⟨fun d => (hmarked d).trans (h.marked_iff d), h.exclusive⟩

/-- A place without a mark is marked, and held by `n`, who held none. -/
theorem Accurate.grant (h : Accurate marked place) {n : Nat} {d : ι} (hfree : ¬ marked d)
    (hnone : place n = none) (hmarked : ∀ e, marked' e ↔ marked e ∨ e = d)
    (hplace : ∀ l, place' l = if l = n then some d else place l) : Accurate marked' place' := by
  constructor
  · intro e
    rw [hmarked, h.marked_iff]
    constructor
    · rintro (⟨l, hl⟩ | rfl)
      · refine ⟨l, (hplace l).trans ((if_neg fun heq => ?_).trans hl)⟩
        rw [heq, hnone] at hl
        exact Option.some_ne_none e hl.symm
      · exact ⟨n, (hplace n).trans (if_pos rfl)⟩
    · rintro ⟨l, hl⟩
      rw [hplace] at hl
      by_cases hln : l = n
      · rw [if_pos hln] at hl
        exact Or.inr (Option.some.inj hl).symm
      · rw [if_neg hln] at hl
        exact Or.inl ⟨l, hl⟩
  · intro l l' e hl hl'
    rw [hplace] at hl hl'
    -- The new holder is alone, since nobody held the place.
    have halone : ∀ k, place k = some e → ¬ some d = some e := by
      intro k hk heq
      rw [← heq] at hk
      exact hfree ((h.marked_iff d).mpr ⟨k, hk⟩)
    by_cases hln : l = n
    · by_cases hln' : l' = n
      · rw [hln, hln']
      · rw [if_pos hln] at hl
        rw [if_neg hln'] at hl'
        exact absurd hl (halone l' hl')
    · by_cases hln' : l' = n
      · rw [if_pos hln'] at hl'
        rw [if_neg hln] at hl
        exact absurd hl' (halone l hl)
      · rw [if_neg hln] at hl
        rw [if_neg hln'] at hl'
        exact h.exclusive l l' e hl hl'

/-- The holder `n` gives up its place, with the mark. -/
theorem Accurate.giveBack (h : Accurate marked place) {n : Nat} {d : ι} (hn : place n = some d)
    (hmarked : ∀ e, marked' e ↔ marked e ∧ e ≠ d)
    (hplace : ∀ l, place' l = if l = n then none else place l) : Accurate marked' place' := by
  constructor
  · intro e
    rw [hmarked, h.marked_iff]
    constructor
    · rintro ⟨⟨l, hl⟩, hne⟩
      refine ⟨l, (hplace l).trans ((if_neg fun heq => ?_).trans hl)⟩
      rw [heq, hn] at hl
      exact hne (Option.some.inj hl).symm
    · rintro ⟨l, hl⟩
      rw [hplace] at hl
      by_cases hln : l = n
      · rw [if_pos hln] at hl
        exact absurd hl.symm (Option.some_ne_none e)
      · rw [if_neg hln] at hl
        exact ⟨⟨l, hl⟩, fun heq => hln (h.exclusive l n d (heq ▸ hl) hn)⟩
  · intro l l' e hl hl'
    have hold : ∀ k, place' k = some e → place k = some e := by
      intro k hk
      rw [hplace] at hk
      by_cases hkn : k = n
      · rw [if_pos hkn] at hk
        exact absurd hk.symm (Option.some_ne_none e)
      · rw [if_neg hkn] at hk
        exact hk
    exact h.exclusive l l' e (hold l hl) (hold l' hl')

/-- A holder that goes away and leaves its mark, with nobody new at the place. -/
theorem Accurate.not_of_left (h : Accurate marked place) {n : Nat} {d : ι}
    (hn : place n = some d) (hgone : place' n = none)
    (hothers : ∀ l, place' l = some d → place l = some d) (hleft : marked' d) :
    ¬ Accurate marked' place' := by
  intro h'
  rcases (h'.marked_iff d).mp hleft with ⟨l, hl⟩
  rw [h.exclusive l n d (hothers l hl) hn, hgone] at hl
  exact Option.some_ne_none d hl.symm

end Accurate

end Marks
