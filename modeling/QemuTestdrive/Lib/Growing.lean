import Mathlib.Data.Nat.Find
import Mathlib.Logic.Function.Iterate
import QemuTestdrive.Lib.Handles

/-!
# Growing Buffers

A call that fills a buffer and says when it was too small is made again and again,
in a larger buffer each time. A round allocates the buffer anew, and may be refused
it; it makes the call, and has an answer or goes on.

`grow` is that loop, over sizes of any kind. Its result is that of the first round
that has one, `grow_eq_some_iff`, and it ends as soon as there is such a round. The
blocks are numbered in the order they are allocated. A new one takes the place of
the old, so the loop holds one block at a time, and gives back the last.

## Main definitions

* `Round`: What a round comes to.
* `Round.result`: The result of a round, if it has one.
* `Buffer`: The block that is held, and what was done with the blocks so far.
* `grow`: The loop.
* `fitting`: The round of a call whose text may be longer than the buffer.
* `Buffer.free`: The block is given back.

## Theorems

* `grow_eq_some_iff`: The result of the loop.
* `grow_isSome`: The loop ends.
* `fitting_some_iff`, `fitting_none_iff`: What comes of such a round.
* `grow_free`: Every block is released once, and used before.
* `grow_total`: All of it for a loop that ends.
-/

namespace Growing

open Handles

variable {σ ρ : Type*}

/-- What a round comes to: the allocation is refused, or the call has an answer, or
    the buffer was too small. -/
inductive Round (ρ : Type*) where
  | refused (r : ρ)
  | answer (r : ρ)
  | again

/-- The result of a round, if it has one. -/
def Round.result : Round ρ → Option ρ
  | .refused r => some r
  | .answer r => some r
  | .again => none

/-- The block that is held, what was done with the blocks, and their number. -/
structure Buffer where
  block : Option Nat
  acts : List (Act Nat)
  count : Nat

/-- No block yet. -/
def Buffer.empty : Buffer :=
  { block := none, acts := [], count := 0 }

/-- The block is given back, if there is one. -/
def Buffer.free (b : Buffer) : Buffer :=
  match b.block with
  | some n => { b with block := none, acts := b.acts ++ [.release n] }
  | none => b

/-- A successful reallocation, and the call that fills the new block. -/
def Buffer.fill (b : Buffer) : Buffer :=
  { block := some b.count
    acts := b.free.acts ++ [.acquire b.count] ++ [.use b.count]
    count := b.count + 1 }

/-- The loop, from the round `k` on. -/
def grow (round : Nat → σ → Round ρ) (next : σ → σ) : Nat → Nat → σ → Buffer → Option (ρ × Buffer)
  | 0, _, _, _ => none
  | fuel + 1, k, size, b =>
      match round k size with
      | .refused r => some (r, b)
      | .answer r => some (r, b.fill)
      | .again => grow round next fuel (k + 1) (next size) b.fill

section Grow

variable (round : Nat → σ → Round ρ) (next : σ → σ)

theorem grow_of_result (fuel : Nat) {k : Nat} {size : σ} (b : Buffer) {r : ρ}
    (h : (round k size).result = some r) :
    ∃ b', grow round next (fuel + 1) k size b = some (r, b') ∧ (b' = b ∨ b' = b.fill) := by
  rw [grow]
  rcases hround : round k size with r' | r' | _
  · rw [hround, Round.result, Option.some.injEq] at h
    exact ⟨b, by rw [h], Or.inl rfl⟩
  · rw [hround, Round.result, Option.some.injEq] at h
    exact ⟨b.fill, by rw [h], Or.inr rfl⟩
  · rw [hround] at h
    exact absurd h.symm (Option.some_ne_none r)

theorem grow_of_none {fuel k : Nat} {size : σ} {b : Buffer} (h : (round k size).result = none) :
    grow round next (fuel + 1) k size b = grow round next fuel (k + 1) (next size) b.fill := by
  rw [grow]
  rcases hround : round k size with r | r | _
  · rw [hround] at h
    exact absurd h (Option.some_ne_none r)
  · rw [hround] at h
    exact absurd h (Option.some_ne_none r)
  · rfl

/-- The result of the loop is that of the first round that has one. -/
theorem grow_eq_some_iff (fuel k : Nat) (size : σ) (b : Buffer) (r : ρ) :
    (∃ b', grow round next fuel k size b = some (r, b')) ↔
      ∃ n < fuel, (∀ j < n, (round (k + j) (next^[j] size)).result = none) ∧
        (round (k + n) (next^[n] size)).result = some r := by
  induction fuel generalizing k size b with
  | zero =>
      refine iff_of_false ?_ ?_
      · rintro ⟨b', h⟩
        exact Option.some_ne_none _ h.symm
      · rintro ⟨n, hn, _⟩
        exact Nat.not_lt_zero n hn
  | succ fuel ih =>
      rcases hround : (round k size).result with _ | r'
      · -- Nothing comes of this round, and the others are those of the rest.
        rw [grow_of_none round next hround, ih]
        constructor
        · rintro ⟨n, hn, hagain, hresult⟩
          refine ⟨n + 1, Nat.succ_lt_succ hn, fun j hj => ?_, ?_⟩
          · cases j with
            | zero => exact hround
            | succ j =>
                rw [Function.iterate_succ_apply, Nat.add_succ, ← Nat.succ_add]
                exact hagain j (Nat.lt_of_succ_lt_succ hj)
          · rw [Function.iterate_succ_apply, Nat.add_succ, ← Nat.succ_add]
            exact hresult
        · rintro ⟨n, hn, hagain, hresult⟩
          cases n with
          | zero => exact absurd (hround.symm.trans hresult).symm (Option.some_ne_none r)
          | succ n =>
              refine ⟨n, Nat.lt_of_succ_lt_succ hn, fun j hj => ?_, ?_⟩
              · have hj' := hagain (j + 1) (Nat.succ_lt_succ hj)
                rwa [Function.iterate_succ_apply, Nat.add_succ, ← Nat.succ_add] at hj'
              · rwa [Function.iterate_succ_apply, Nat.add_succ, ← Nat.succ_add] at hresult
      · rcases grow_of_result round next fuel b hround with ⟨b₀, hgrow, _⟩
        rw [hgrow]
        constructor
        · rintro ⟨b', h⟩
          simp only [Option.some.injEq, Prod.mk.injEq] at h
          exact ⟨0, Nat.succ_pos _, fun j hj => absurd hj (Nat.not_lt_zero j), h.1 ▸ hround⟩
        · rintro ⟨n, _, hagain, hresult⟩
          cases n with
          | zero =>
              have heq : r' = r := Option.some.inj (hround.symm.trans hresult)
              exact ⟨b₀, by rw [heq]⟩
          | succ n =>
              have hfirst := (hround.symm.trans (hagain 0 (Nat.succ_pos n)))
              exact absurd hfirst (Option.some_ne_none r')

/-- The loop ends when some round has a result. -/
theorem grow_isSome {fuel k : Nat} {size : σ} (b : Buffer) {n : Nat} (hn : n < fuel)
    (h : (round (k + n) (next^[n] size)).result.isSome) :
    ∃ r b', grow round next fuel k size b = some (r, b') := by
  classical
  -- The first such round is the one the result is from.
  have hex : ∃ m, (round (k + m) (next^[m] size)).result.isSome := ⟨n, h⟩
  rcases Option.isSome_iff_exists.mp (Nat.find_spec hex) with ⟨r, hr⟩
  refine ⟨r, (grow_eq_some_iff round next fuel k size b r).mpr ⟨Nat.find hex,
    Nat.lt_of_le_of_lt (Nat.find_min' hex h) hn, fun j hj => ?_, hr⟩⟩
  exact Option.not_isSome_iff_eq_none.mp (Nat.find_min hex hj)

end Grow

/-- The round of a call that gets the text `got`, or fails with `missed`. A text that
    is shorter than `m` comes out as `f` makes it. -/
def fitting {α β : Type*} (ok : Bool) (got : Option (List α)) (m : Nat) (missed : Option β)
    (f : List α → β) : Round (Option β) :=
  if ok then
    match got with
    | none => .answer missed
    | some text => if text.length < m then .answer (some (f text)) else .again
  else .refused none

section Fitting

variable {α β : Type*} (ok : Bool) (got : Option (List α)) (m : Nat) (missed : Option β)
  (f : List α → β)

theorem fitting_some_iff (t : β) :
    (fitting ok got m missed f).result = some (some t) ↔
      ok = true ∧ (got = none ∧ missed = some t ∨
        ∃ text, got = some text ∧ text.length < m ∧ f text = t) := by
  unfold fitting
  by_cases hok : ok = true
  · rw [if_pos hok, and_iff_right hok]
    rcases got with _ | text
    · simp [Round.result]
    · by_cases hfits : text.length < m
      · simp [hfits, Round.result]
      · simp [hfits, Round.result]
  · rw [if_neg hok]
    simp [Round.result, hok]

theorem fitting_none_iff :
    (fitting ok got m missed f).result = none ↔
      ok = true ∧ ∃ text, got = some text ∧ m ≤ text.length := by
  unfold fitting
  by_cases hok : ok = true
  · rw [if_pos hok, and_iff_right hok]
    rcases got with _ | text
    · simp [Round.result]
    · by_cases hfits : text.length < m
      · simp [hfits, Round.result]
      · simp [hfits, Round.result, Nat.le_of_not_lt hfits]
  · rw [if_neg hok]
    simp [Round.result, hok]

end Fitting

/-- The blocks of all the rounds, the answer of the last, and the others that had
    none. -/
theorem rounds_iff {ok small : Nat → Prop} {answer : Prop} (n : Nat) :
    ((∀ j < n, ok j ∧ small j) ∧ ok n ∧ answer) ↔
      (∀ j ≤ n, ok j) ∧ answer ∧ ∀ j < n, small j := by
  constructor
  · rintro ⟨hbefore, hlast, hanswer⟩
    refine ⟨fun j hj => ?_, hanswer, fun j hj => (hbefore j hj).2⟩
    rcases Nat.lt_or_eq_of_le hj with hlt | rfl
    · exact (hbefore j hlt).1
    · exact hlast
  · rintro ⟨hok, hanswer, hsmall⟩
    exact ⟨fun j hj => ⟨hok j (Nat.le_of_lt hj), hsmall j hj⟩, hok n (Nat.le_refl n), hanswer⟩

/-- The blocks of a buffer: the one it holds is the one that is open. -/
def Buffer.Kept (b : Buffer) : Prop :=
  Ledger b.acts (fun n => b.block = some n) b.count

theorem kept_empty : Buffer.empty.Kept :=
  ledger_nil (fun n h => Option.some_ne_none n h.symm) 0

section Kept

variable {b : Buffer}

theorem Buffer.Kept.free (h : b.Kept) : Ledger b.free.acts (fun _ => False) b.count := by
  unfold Buffer.free
  rcases hblock : b.block with _ | n
  · exact h.congr fun k => iff_of_false (fun hk => Option.some_ne_none k (hk.symm.trans hblock)) id
  · refine Ledger.release h hblock fun k => ?_
    rw [hblock, Option.some.injEq]
    exact iff_of_false id fun hk => hk.2 hk.1.symm

theorem Buffer.Kept.fill (h : b.Kept) : b.fill.Kept := by
  have hnew : Ledger (b.free.acts ++ [.acquire b.count]) (fun n => some b.count = some n)
      (b.count + 1) := by
    refine h.free.acquire fun k => ?_
    rw [Option.some.injEq]
    exact ⟨fun hk => Or.inr hk.symm, fun hk => (hk.resolve_left id).symm⟩
  exact hnew.use rfl

/-- The loop keeps the blocks. When the last one has been given back, every block has
    been released once, and was used only before. -/
theorem grow_free {round : Nat → σ → Round ρ} {next : σ → σ} {fuel k : Nat} {size : σ} {r : ρ}
    {b' : Buffer} (h : b.Kept) (hgrow : grow round next fuel k size b = some (r, b')) :
    Disciplined b'.free.acts ∧
      ∀ n, .acquire n ∈ b'.free.acts → b'.free.acts.count (.release n) = 1 := by
  have hkept : b'.Kept := by
    induction fuel generalizing k size b with
    | zero => exact absurd hgrow.symm (Option.some_ne_none _)
    | succ fuel ih =>
        rcases hround : (round k size).result with _ | r'
        · rw [grow_of_none round next hround] at hgrow
          exact ih h.fill hgrow
        · rcases grow_of_result round next fuel b hround with ⟨b₀, heq, hb⟩
          rw [hgrow, Option.some.injEq, Prod.mk.injEq] at heq
          rw [heq.2]
          rcases hb with rfl | rfl
          · exact h
          · exact h.fill
  have hfree := hkept.free
  exact ⟨hfree.disciplined,
    hfree.disciplined.settled_iff.mp fun n hn => (hfree.open_iff n).mp hn⟩

end Kept

/-- A loop that ends, from no block on: the blocks, and which result it has. -/
theorem grow_total {round : Nat → σ → Round ρ} {next : σ → σ} {fuel : Nat} {size : σ} {n : Nat}
    (hn : n < fuel) (h : (round n (next^[n] size)).result.isSome) :
    ∃ r b, grow round next fuel 0 size .empty = some (r, b) ∧
      (Disciplined b.free.acts ∧
        ∀ k, .acquire k ∈ b.free.acts → b.free.acts.count (.release k) = 1) ∧
      ∀ r', r = r' ↔ ∃ n < fuel, (∀ j < n, (round j (next^[j] size)).result = none) ∧
        (round n (next^[n] size)).result = some r' := by
  rcases grow_isSome round next (k := 0) .empty hn (by rwa [Nat.zero_add]) with ⟨r, b, hgrow⟩
  refine ⟨r, b, hgrow, grow_free kept_empty hgrow, fun r' => ?_⟩
  have hiff := grow_eq_some_iff round next fuel 0 size .empty r'
  simp only [hgrow, Option.some.injEq, Prod.mk.injEq, Nat.zero_add, exists_and_left,
    exists_eq', and_true] at hiff
  exact hiff

end Growing
