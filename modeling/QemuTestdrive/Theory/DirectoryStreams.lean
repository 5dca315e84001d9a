import QemuTestdrive.Core.Directory
import QemuTestdrive.Lib.Runs

/-!
# Streams of Directory Iterators

A stream of the operating system is reached only through the iterator that opened
it. An iterator closes its stream when it has delivered the last entry, when the
script closes it and when it is collected, in any order and more than once, and
can be asked for another entry at any time. A stream that is read or closed after
it has been closed is a use of freed memory.

What an iterator has open is read off its data by `openHandle`, which differs
between the platforms. Everything else is about iterators that have streams, and
is stated once: `StreamsKept` is the ledger of the streams, where what is open is
what the iterators have open, each for itself. The two step functions are made of
a few operations that keep it.

## Main definitions

* `PosixDir.openHandle`, `WindowsDir.openHandle`: The stream an iterator has open.
* `DirState.Holds`: An iterator has a stream open.
* `StreamsKept`: The ledger of the streams.
* `StreamsSafe`: The streams are used in order, and closed with the iterators.

## Theorems

* `streamsKept_insert`, `streamsKept_replace`, `streamsKept_attach`,
  `streamsKept_read`, `streamsKept_detach`: The operations on iterators and
  streams.
* `Posix.streamsKept_step`, `Windows.streamsKept_step`: A step of either platform.
* `streamsSafe_run`: Every run of either platform.
-/

namespace QemuTestdrive

open Handles

/-- The stream an iterator has open. -/
def PosixDir.openHandle (d : PosixDir) : Option Nat :=
  if d.closed then none else d.dir

/-- The search an iterator has open. -/
def WindowsDir.openHandle (d : WindowsDir) : Option Nat :=
  if d.closed then none
  else
    match d.hFile with
    | .handle h => some h
    | _ => none

section Streams

variable {δ ε : Type}

/-- The iterator `i` has the stream `h` open. -/
def DirState.Holds (f : δ → Option Nat) (s : DirState δ ε) (i h : Nat) : Prop :=
  ∃ d, s.iters[i]? = some d ∧ f d = some h

/-- What is open is what the iterators have open, each for itself. -/
structure StreamsKept (f : δ → Option Nat) (s : DirState δ ε) : Prop where
  ledger : Ledger s.calls (fun h => ∃ i, s.Holds f i h) s.handles
  apart : ∀ i j h, s.Holds f i h → s.Holds f j h → i = j

variable {f : δ → Option Nat} {s t : DirState δ ε}

theorem holds_congr (h : t.iters = s.iters) (i k : Nat) : t.Holds f i k ↔ s.Holds f i k := by
  unfold DirState.Holds
  rw [h]

/-- The iterators after one has been added. -/
theorem holds_push (d : δ) (i k : Nat) (h : t.iters = s.iters ++ [d]) :
    t.Holds f i k ↔ s.Holds f i k ∨ i = s.iters.length ∧ f d = some k := by
  unfold DirState.Holds
  rw [h]
  rcases Nat.lt_trichotomy i s.iters.length with hlt | rfl | hgt
  · rw [List.getElem?_append_left hlt]
    exact (or_iff_left fun hi => Nat.ne_of_lt hlt hi.1).symm
  · rw [List.getElem?_concat_length, List.getElem?_eq_none (Nat.le_refl _)]
    simp
  · have hlen : (s.iters ++ [d]).length ≤ i := by
      rw [List.length_append, List.length_singleton]
      exact hgt
    rw [List.getElem?_eq_none hlen, List.getElem?_eq_none (Nat.le_of_lt hgt)]
    simp [Nat.ne_of_gt hgt]

/-- The iterators after the data of one has been replaced. -/
theorem holds_set {d d' : δ} {i : Nat} (hd : s.iters[i]? = some d) (j k : Nat)
    (h : t.iters = s.iters.set i d') :
    t.Holds f j k ↔ if j = i then f d' = some k else s.Holds f j k := by
  unfold DirState.Holds
  rw [h]
  by_cases hji : j = i
  · rw [if_pos hji, hji, List.getElem?_set_self (List.getElem?_eq_some_iff.mp hd).1]
    simp
  · rw [if_neg hji, List.getElem?_set_ne (Ne.symm hji)]

/-- The same when the new data has nothing open. -/
theorem holds_set_none {d d' : δ} {i : Nat} (hd : s.iters[i]? = some d) (hd' : f d' = none)
    (j k : Nat) (h : t.iters = s.iters.set i d') : t.Holds f j k ↔ s.Holds f j k ∧ j ≠ i := by
  rw [holds_set hd j k h]
  by_cases hji : j = i
  · rw [if_pos hji, hd']
    exact iff_of_false (Option.some_ne_none k).symm fun hc => hc.2 hji
  · rw [if_neg hji]
    exact (and_iff_left hji).symm

/-- Nothing is opened or closed, and no stream changes hands. -/
theorem StreamsKept.congr (h : StreamsKept f s) (hcalls : t.calls = s.calls)
    (hhandles : t.handles = s.handles) (hholds : ∀ i k, t.Holds f i k ↔ s.Holds f i k) :
    StreamsKept f t := by
  refine ⟨?_, fun i j k hi hj => h.apart i j k ((hholds i k).mp hi) ((hholds j k).mp hj)⟩
  rw [hcalls, hhandles]
  exact h.ledger.congr fun k => exists_congr fun i => (hholds i k).symm

/-- An iterator that has nothing open. -/
theorem streamsKept_insert (h : StreamsKept f s) {d : δ} (hd : f d = none) :
    StreamsKept f (s.push d) := by
  refine h.congr rfl rfl fun i k => ?_
  rw [holds_push d i k rfl, hd]
  exact or_iff_left fun hk => Option.some_ne_none k hk.2.symm

/-- The data of an iterator is replaced, with the same stream open. -/
theorem streamsKept_replace (h : StreamsKept f s) {d d' : δ} {i : Nat}
    (hd : s.iters[i]? = some d) (hf : f d' = f d) : StreamsKept f (s.setIter i d') := by
  refine h.congr rfl rfl fun j k => ?_
  rw [holds_set hd j k rfl]
  by_cases hji : j = i
  · rw [if_pos hji, hji, hf]
    exact ⟨fun hk => ⟨d, hd, hk⟩, fun ⟨e, he, hk⟩ => Option.some.inj (hd.symm.trans he) ▸ hk⟩
  · rw [if_neg hji]

/-- A stream is opened for the iterator `i`, which had none. -/
theorem streamsKept_attach (h : StreamsKept f s) {i : Nat}
    (hcalls : t.calls = s.calls ++ [.acquire s.handles]) (hhandles : t.handles = s.handles + 1)
    (hholds : ∀ j k, t.Holds f j k ↔ s.Holds f j k ∨ j = i ∧ k = s.handles) :
    StreamsKept f t := by
  have hold : ∀ j, ¬ s.Holds f j s.handles := fun j hj =>
    Nat.lt_irrefl _ (h.ledger.lt ⟨j, hj⟩)
  constructor
  · rw [hcalls, hhandles]
    refine h.ledger.acquire fun k => ?_
    constructor
    · rintro ⟨j, hj⟩
      rcases (hholds j k).mp hj with hj | ⟨_, hk⟩
      · exact Or.inl ⟨j, hj⟩
      · exact Or.inr hk
    · rintro (⟨j, hj⟩ | hk)
      · exact ⟨j, (hholds j k).mpr (Or.inl hj)⟩
      · exact ⟨i, (hholds i k).mpr (Or.inr ⟨rfl, hk⟩)⟩
  · intro a b k ha hb
    -- The new stream is held by the iterator `i` alone, an old one by its old holder.
    rcases (hholds a k).mp ha with ha | ⟨ha, hk⟩
    · rcases (hholds b k).mp hb with hb | ⟨_, hk⟩
      · exact h.apart a b k ha hb
      · exact absurd (hk ▸ ha) (hold a)
    · rcases (hholds b k).mp hb with hb | ⟨hb, _⟩
      · exact absurd (hk ▸ hb) (hold b)
      · rw [ha, hb]

/-- A stream is read by the iterator that has it open. -/
theorem streamsKept_read (h : StreamsKept f s) {i k : Nat} (hi : s.Holds f i k) :
    StreamsKept f (s.readStream k).1 := by
  refine ⟨?_, fun a b j ha hb => h.apart a b j ((holds_congr rfl a j).mp ha)
    ((holds_congr rfl b j).mp hb)⟩
  exact (h.ledger.use ⟨i, hi⟩).congr fun j => exists_congr fun a => (holds_congr rfl a j).symm

/-- A stream is closed by the iterator that has it open, which has nothing open
    afterwards. -/
theorem streamsKept_detach (h : StreamsKept f s) {d d' : δ} {i k : Nat}
    (hd : s.iters[i]? = some d) (hk : f d = some k) (hd' : f d' = none) :
    StreamsKept f ((s.closeStream k).setIter i d') := by
  have hholds : ∀ j l, ((s.closeStream k).setIter i d').Holds f j l ↔
      s.Holds f j l ∧ j ≠ i := fun j l => holds_set_none (s := s) hd hd' j l rfl
  have hi : s.Holds f i k := ⟨d, hd, hk⟩
  constructor
  · refine h.ledger.release ⟨i, hi⟩ fun l => ?_
    constructor
    · rintro ⟨j, hj⟩
      rcases (hholds j l).mp hj with ⟨hj, hne⟩
      exact ⟨⟨j, hj⟩, fun hl => hne (h.apart j i k (hl ▸ hj) hi)⟩
    · rintro ⟨⟨j, hj⟩, hl⟩
      refine ⟨j, (hholds j l).mpr ⟨hj, fun hji => hl ?_⟩⟩
      -- The iterator `i` has only the stream `k` open.
      rcases hj with ⟨e, he, hle⟩
      rw [hji, hd, Option.some.injEq] at he
      rw [← he, hk, Option.some.injEq] at hle
      exact hle.symm
  · intro a b l ha hb
    exact h.apart a b l ((hholds a l).mp ha).1 ((hholds b l).mp hb).1

/-- The streams are read and closed while they are open and closed once, and what
    is open is what the iterators have open. When every iterator is collected, in
    whatever order and however often, every stream has been closed. -/
structure StreamsSafe (f : δ → Option Nat) (collect : DirState δ ε → Nat → DirState δ ε)
    (s : DirState δ ε) : Prop where
  rule : Disciplined s.calls
  held : ∀ h, Open s.calls h ↔ ∃ i, s.Holds f i h
  collected : ∀ is : List Nat, (∀ i < s.iters.length, i ∈ is) →
    Disciplined (Runs.run collect s is).calls ∧
      ∀ h, .acquire h ∈ (Runs.run collect s is).calls →
        (Runs.run collect s is).calls.count (.release h) = 1

theorem streamsSafe_of_kept {collect : DirState δ ε → Nat → DirState δ ε}
    (hcollect : ∀ s i, StreamsKept f s → StreamsKept f (collect s i))
    (hholds : ∀ (s : DirState δ ε) i j k,
      (collect s i).Holds f j k ↔ s.Holds f j k ∧ j ≠ i)
    (h : StreamsKept f s) : StreamsSafe f collect s := by
  refine ⟨h.ledger.disciplined, h.ledger.open_iff, fun is his => ?_⟩
  have hend := Runs.run_preserves collect (I := StreamsKept f) hcollect s is h
  -- Each collection takes away what its iterator has open.
  have hleft : ∀ (is : List Nat) (s : DirState δ ε) j k,
      (Runs.run collect s is).Holds f j k ↔ s.Holds f j k ∧ j ∉ is := by
    intro is
    induction is with
    | nil => intro s j k; exact (and_iff_left List.not_mem_nil).symm
    | cons i is ih =>
        intro s j k
        rw [Runs.run_cons, ih, hholds, List.mem_cons, not_or, and_assoc]
  refine ⟨hend.ledger.disciplined, hend.ledger.disciplined.settled_iff.mp fun k hk => ?_⟩
  rcases (hend.ledger.open_iff k).mp hk with ⟨j, hj⟩
  rcases (hleft is s j k).mp hj with ⟨⟨d, hd, _⟩, hnot⟩
  exact hnot (his j (List.getElem?_eq_some_iff.mp hd).1)

end Streams

namespace Posix

section Calls

variable {s : State} {i h : Nat}

theorem dirIter_none (hd : s.iters[i]? = none) :
    dirIter i s = (s, notDirectory) := by
  simp only [dirIter, hd]

theorem dirIter_closed {dir : Option Nat} (hd : s.iters[i]? = some ⟨true, dir⟩) :
    dirIter i s = (s, closedDirectory) := by
  simp only [dirIter, hd, if_true]

theorem dirIter_null (hd : s.iters[i]? = some ⟨false, none⟩) :
    dirIter i s = (s, .crashed) := by
  simp only [dirIter, hd, Bool.false_eq_true, if_false]

theorem dirIter_entry (hd : s.iters[i]? = some ⟨false, some h⟩) {name : List Char}
    {names : List (List Char)} (hs : s.streams h = name :: names) :
    dirIter i s = ((s.readStream h).1, .name name) := by
  simp only [dirIter, hd, Bool.false_eq_true, if_false, DirState.readStream, hs, List.head?_cons]

theorem dirIter_end (hd : s.iters[i]? = some ⟨false, some h⟩) (hs : s.streams h = []) :
    dirIter i s =
      (((s.readStream h).1.closeStream h).setIter i ⟨true, some h⟩, .nothing) := by
  simp only [dirIter, hd, Bool.false_eq_true, if_false, DirState.readStream, hs, List.head?_nil]

theorem dirClose_none (hd : s.iters[i]? = none) : dirClose i s = (s, .crashed) := by
  simp only [dirClose, hd]

theorem dirClose_open (hd : s.iters[i]? = some ⟨false, some h⟩) :
    dirClose i s = ((s.closeStream h).setIter i ⟨true, some h⟩, .nothing) := by
  simp only [dirClose, hd]

theorem dirClose_idle {d : PosixDir} (hd : s.iters[i]? = some d) (hidle : d.openHandle = none) :
    dirClose i s = (s.setIter i { d with closed := true }, .nothing) := by
  rcases d with ⟨closed, dir⟩
  cases closed with
  | true => simp only [dirClose, hd]
  | false =>
      cases dir with
      | none => simp only [dirClose, hd]
      | some h => exact absurd hidle (Option.some_ne_none h)

end Calls

variable (strerror : Int → List Char) {s : State}

theorem streamsKept_dirIter (h : StreamsKept PosixDir.openHandle s) (i : Nat) :
    StreamsKept PosixDir.openHandle (dirIter i s).1 := by
  rcases hd : s.iters[i]? with _ | ⟨_ | _, _ | k⟩
  · rw [dirIter_none hd]
    exact h
  · rw [dirIter_null hd]
    exact h
  · have hread := streamsKept_read h ⟨_, hd, rfl⟩
    rcases hs : s.streams k with _ | ⟨name, names⟩
    · -- The stream is closed right after the read that finds its end.
      rw [dirIter_end hd hs]
      exact streamsKept_detach hread hd rfl rfl
    · rw [dirIter_entry hd hs]
      exact hread
  · rw [dirIter_closed hd]
    exact h
  · rw [dirIter_closed hd]
    exact h

theorem streamsKept_dirClose (h : StreamsKept PosixDir.openHandle s) (i : Nat) :
    StreamsKept PosixDir.openHandle (dirClose i s).1 := by
  rcases hd : s.iters[i]? with _ | ⟨_ | _, _ | k⟩
  · rw [dirClose_none hd]
    exact h
  · rw [dirClose_idle hd rfl]
    exact streamsKept_replace h hd rfl
  · rw [dirClose_open hd]
    exact streamsKept_detach h hd rfl rfl
  · rw [dirClose_idle hd rfl]
    exact streamsKept_replace h hd rfl
  · rw [dirClose_idle hd rfl]
    exact streamsKept_replace h hd rfl

theorem holds_dirClose (s : State) (i j k : Nat) :
    (dirClose i s).1.Holds PosixDir.openHandle j k ↔
      s.Holds PosixDir.openHandle j k ∧ j ≠ i := by
  rcases hd : s.iters[i]? with _ | ⟨_ | _, _ | h⟩
  · rw [dirClose_none hd]
    refine (and_iff_left_of_imp ?_).symm
    rintro ⟨d, hj, _⟩ hji
    exact Option.some_ne_none d (hj.symm.trans (hji ▸ hd))
  · rw [dirClose_idle hd rfl]
    exact holds_set_none hd rfl j k rfl
  · rw [dirClose_open hd]
    exact holds_set_none (s := s) hd rfl j k rfl
  · rw [dirClose_idle hd rfl]
    exact holds_set_none hd rfl j k rfl
  · rw [dirClose_idle hd rfl]
    exact holds_set_none hd rfl j k rfl

theorem streamsKept_step (s : State) (op : DirOp (List (List Char)))
    (h : StreamsKept PosixDir.openHandle s) :
    StreamsKept PosixDir.openHandle (dirStep strerror s op).1 := by
  cases op with
  | dir path =>
      unfold dirStep dirIterFactory
      simp only
      split
      · refine streamsKept_attach h rfl rfl (i := s.iters.length) fun j k => ?_
        rw [holds_push (s := s) _ j k rfl]
        refine or_congr_right (and_congr_right fun _ => ?_)
        rw [PosixDir.openHandle, if_neg Bool.false_ne_true, Option.some.injEq, eq_comm]
      · exact streamsKept_insert h rfl
  | next i => exact streamsKept_dirIter h i
  | close i => exact streamsKept_dirClose h i
  | change dir fs rest => exact h.congr rfl rfl fun i k => holds_congr rfl i k

end Posix

namespace Windows

section Calls

variable {strerror : Int → List Char} {s : State} {i h : Nat} {pattern : Option (List Char)}

theorem dirIter_none (hd : s.iters[i]? = none) :
    dirIter strerror i s = (s, notDirectory) := by
  simp only [dirIter, hd]

theorem dirIter_closed {hFile : FindHandle} (hd : s.iters[i]? = some ⟨true, hFile, pattern⟩) :
    dirIter strerror i s = (s, closedDirectory) := by
  simp only [dirIter, hd, if_true]

theorem dirIter_unwritten (hd : s.iters[i]? = some ⟨false, .zero, none⟩) :
    dirIter strerror i s = (s, .crashed) := by
  simp only [dirIter, hd, Bool.false_eq_true, if_false]

theorem dirIter_invalid (hd : s.iters[i]? = some ⟨false, .invalid, pattern⟩) :
    dirIter strerror i s = (s, .crashed) := by
  simp only [dirIter, hd, Bool.false_eq_true, if_false]

theorem dirIter_unfound {p : List Char} (hd : s.iters[i]? = some ⟨false, .zero, some p⟩)
    {errno : Int} (hfs : s.fs p = .error errno) :
    dirIter strerror i s =
      (s.setIter i ⟨true, .invalid, some p⟩, .failed (strerror errno)) := by
  simp only [dirIter, hd, Bool.false_eq_true, if_false, hfs]

theorem dirIter_first {p : List Char} (hd : s.iters[i]? = some ⟨false, .zero, some p⟩)
    {l : Listing (List Char × List (List Char))} (hfs : s.fs p = .ok l) :
    dirIter strerror i s =
      ((s.openStream l.dir l.entries.2).setIter i ⟨false, .handle s.handles, some p⟩,
        .name l.entries.1) := by
  simp only [dirIter, hd, Bool.false_eq_true, if_false, hfs]

theorem dirIter_entry (hd : s.iters[i]? = some ⟨false, .handle h, pattern⟩) {name : List Char}
    {names : List (List Char)} (hs : s.streams h = name :: names) :
    dirIter strerror i s = ((s.readStream h).1, .name name) := by
  simp only [dirIter, hd, Bool.false_eq_true, if_false, DirState.readStream, hs, List.head?_cons]

theorem dirIter_end (hd : s.iters[i]? = some ⟨false, .handle h, pattern⟩)
    (hs : s.streams h = []) :
    dirIter strerror i s =
      (((s.readStream h).1.closeStream h).setIter i ⟨true, .handle h, pattern⟩, .nothing) := by
  simp only [dirIter, hd, Bool.false_eq_true, if_false, DirState.readStream, hs, List.head?_nil]

theorem dirClose_none (hd : s.iters[i]? = none) : dirClose i s = (s, .crashed) := by
  simp only [dirClose, hd]

theorem dirClose_open (hd : s.iters[i]? = some ⟨false, .handle h, pattern⟩) :
    dirClose i s = ((s.closeStream h).setIter i ⟨true, .handle h, pattern⟩, .nothing) := by
  simp only [dirClose, hd]

theorem dirClose_idle {d : WindowsDir} (hd : s.iters[i]? = some d)
    (hidle : d.openHandle = none) :
    dirClose i s = (s.setIter i { d with closed := true }, .nothing) := by
  rcases d with ⟨closed, hFile, pattern⟩
  cases closed with
  | true => simp only [dirClose, hd]
  | false =>
      cases hFile with
      | zero => simp only [dirClose, hd]
      | invalid => simp only [dirClose, hd]
      | handle h => exact absurd hidle (Option.some_ne_none h)

/-- An iterator that has a search open is not closed. -/
theorem openHandle_eq_some {closed : Bool} {hFile : FindHandle}
    (hopen : WindowsDir.openHandle ⟨closed, hFile, pattern⟩ = some h) :
    closed = false ∧ hFile = .handle h := by
  cases closed with
  | true => exact absurd hopen.symm (Option.some_ne_none h)
  | false =>
      cases hFile with
      | zero => exact absurd hopen.symm (Option.some_ne_none h)
      | invalid => exact absurd hopen.symm (Option.some_ne_none h)
      | handle k => exact ⟨rfl, congrArg FindHandle.handle (Option.some.inj hopen)⟩

end Calls

variable (strerror : Int → List Char) {s : State}

/-- The first call opens the search for an iterator that had nothing open. -/
theorem streamsKept_first (h : StreamsKept WindowsDir.openHandle s) {i : Nat} {p : List Char}
    (hd : s.iters[i]? = some ⟨false, .zero, some p⟩) (dir : Nat) (names : List (List Char)) :
    StreamsKept WindowsDir.openHandle
      ((s.openStream dir names).setIter i ⟨false, .handle s.handles, some p⟩) := by
  refine streamsKept_attach h rfl rfl (i := i) fun j k => ?_
  rw [holds_set (s := s) hd j k rfl]
  by_cases hji : j = i
  · rw [if_pos hji, hji]
    constructor
    · exact fun hk => Or.inr ⟨rfl, (Option.some.inj hk).symm⟩
    · rintro (⟨e, he, hk⟩ | ⟨_, hk⟩)
      · -- The iterator had nothing open before.
        rw [← Option.some.inj (hd.symm.trans he)] at hk
        exact absurd hk.symm (Option.some_ne_none k)
      · exact congrArg some hk.symm
  · rw [if_neg hji]
    exact (or_iff_left fun hk => hji hk.1).symm

theorem streamsKept_dirIter (h : StreamsKept WindowsDir.openHandle s) (i : Nat) :
    StreamsKept WindowsDir.openHandle (dirIter strerror i s).1 := by
  rcases hd : s.iters[i]? with _ | ⟨_ | _, _ | _ | k, pattern⟩
  · rw [dirIter_none hd]
    exact h
  · cases pattern with
    | none =>
        rw [dirIter_unwritten hd]
        exact h
    | some p =>
        rcases hfs : s.fs p with errno | l
        · -- The iterator is closed with nothing to close.
          rw [dirIter_unfound hd hfs]
          exact streamsKept_replace h hd rfl
        · rw [dirIter_first hd hfs]
          exact streamsKept_first h hd l.dir l.entries.2
  · rw [dirIter_invalid hd]
    exact h
  · have hread := streamsKept_read h ⟨_, hd, rfl⟩
    rcases hs : s.streams k with _ | ⟨name, names⟩
    · rw [dirIter_end hd hs]
      exact streamsKept_detach hread hd rfl rfl
    · rw [dirIter_entry hd hs]
      exact hread
  · rw [dirIter_closed hd]
    exact h
  · rw [dirIter_closed hd]
    exact h
  · rw [dirIter_closed hd]
    exact h

theorem streamsKept_dirClose (h : StreamsKept WindowsDir.openHandle s) (i : Nat) :
    StreamsKept WindowsDir.openHandle (dirClose i s).1 := by
  rcases hd : s.iters[i]? with _ | d
  · rw [dirClose_none hd]
    exact h
  · rcases hidle : d.openHandle with _ | k
    · rw [dirClose_idle hd hidle]
      exact streamsKept_replace h hd hidle.symm
    · rcases d with ⟨closed, hFile, pattern⟩
      rcases openHandle_eq_some hidle with ⟨rfl, rfl⟩
      rw [dirClose_open hd]
      exact streamsKept_detach h hd rfl rfl

theorem holds_dirClose (s : State) (i j k : Nat) :
    (dirClose i s).1.Holds WindowsDir.openHandle j k ↔
      s.Holds WindowsDir.openHandle j k ∧ j ≠ i := by
  rcases hd : s.iters[i]? with _ | d
  · rw [dirClose_none hd]
    refine (and_iff_left_of_imp ?_).symm
    rintro ⟨d, hj, _⟩ hji
    exact Option.some_ne_none d (hj.symm.trans (hji ▸ hd))
  · rcases hidle : d.openHandle with _ | l
    · rw [dirClose_idle hd hidle]
      exact holds_set_none hd rfl j k rfl
    · rcases d with ⟨closed, hFile, pattern⟩
      rcases openHandle_eq_some hidle with ⟨rfl, rfl⟩
      rw [dirClose_open hd]
      exact holds_set_none (s := s) hd rfl j k rfl

theorem streamsKept_step (s : State) (op : DirOp (List Char × List (List Char)))
    (h : StreamsKept WindowsDir.openHandle s) :
    StreamsKept WindowsDir.openHandle (dirStep strerror s op).1 := by
  cases op with
  | dir path =>
      unfold dirStep dirIterFactory
      simp only
      split
      · exact streamsKept_insert h rfl
      · exact streamsKept_insert h rfl
  | next i => exact streamsKept_dirIter strerror h i
  | close i => exact streamsKept_dirClose h i
  | change dir fs rest => exact h.congr rfl rfl fun i k => holds_congr rfl i k

end Windows

theorem streamsKept_start {δ ε : Type} (f : δ → Option Nat)
    (fs : List Char → Except Int (Listing ε)) :
    StreamsKept f (DirState.start fs) := by
  have hnone : ∀ i k, ¬ (DirState.start fs).Holds f i k := by
    rintro i k ⟨d, hd, _⟩
    exact Option.some_ne_none d hd.symm
  refine ⟨ledger_nil (fun k hk => ?_) 0, fun i j k hi => absurd hi (hnone i k)⟩
  rcases hk with ⟨i, hi⟩
  exact hnone i k hi

/-- In every run of either platform, with any iterators in any order, the streams
    are safe. -/
theorem streamsSafe_run (strerror : Int → List Char)
    (fs : List Char → Except Int (Listing (List (List Char))))
    (fs' : List Char → Except Int (Listing (List Char × List (List Char))))
    (ops : List (DirOp (List (List Char)))) (ops' : List (DirOp (List Char × List (List Char)))) :
    StreamsSafe PosixDir.openHandle (fun s i => (Posix.dirClose i s).1)
        (Runs.run (fun s op => (Posix.dirStep strerror s op).1) (DirState.start fs) ops) ∧
      StreamsSafe WindowsDir.openHandle (fun s i => (Windows.dirClose i s).1)
        (Runs.run (fun s op => (Windows.dirStep strerror s op).1) (DirState.start fs') ops') := by
  constructor
  · refine streamsSafe_of_kept (fun s i h => Posix.streamsKept_dirClose h i)
      (fun s i j k => Posix.holds_dirClose s i j k) ?_
    exact Runs.run_preserves _ (Posix.streamsKept_step strerror) _ ops (streamsKept_start _ fs)
  · refine streamsSafe_of_kept (fun s i h => Windows.streamsKept_dirClose h i)
      (fun s i j k => Windows.holds_dirClose s i j k) ?_
    exact Runs.run_preserves _ (Windows.streamsKept_step strerror) _ ops' (streamsKept_start _ fs')

end QemuTestdrive
