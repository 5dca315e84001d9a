import QemuTestdrive.Lib.Cursors
import QemuTestdrive.Theory.DirectoryStreams

/-!
# What Directory Iterators Deliver

To a script an iterator is a cursor over the entries of its directory. On POSIX
the entries are there from the start, on Windows they are looked up by the first
`next`. `view` is this cursor, read off the data of the iterator and its stream.

`IteratorLaws` is what a platform promises about it: a `next` advances the cursor
it is called on, a `close` closes it, and nothing else touches it, in particular
no operation on another iterator. The one exception is a change of the directory
its stream is on, since nobody says what the stream delivers after that. The laws
of either platform rest on `StreamsKept`, since an iterator that shared its stream
would lose entries to the other. What a script gets is proved from the laws alone.

## Main definitions

* `dirAnswer`: What a cursor's answer looks like in the script.
* `Posix.view`, `Windows.view`: The cursor an iterator is.
* `DirState.On`, `DirOp.Spares`: The directory of an iterator, and the operations that
  leave it as it is.
* `Untouched`: An iterator with its stream is as before.
* `IteratorLaws`: What a platform promises about its iterators.

## Theorems

* `IteratorLaws.answers_eq`: What the calls on one iterator deliver.
* `Posix.iteratorLaws`, `Windows.iteratorLaws`: Either platform keeps the laws.
* `posix_enumerates`, `windows_enumerates`: The entries of a directory.
-/

namespace QemuTestdrive

open Cursors

/-- The cursor of an iterator, over a listing that may have to be looked up. -/
abbrev DirCursor : Type :=
  Cursor (List Char) (List Char)

/-- What an answer looks like in the script. -/
def dirAnswer (strerror : Int → List Char) : Answer (List Char) Int → DirResult
  | .item name => .name name
  | .finished => .nothing
  | .failed errno => .failed (strerror errno)
  | .closed => closedDirectory

section Untouched

variable {δ ε : Type}

/-- The stream of the iterator `i`, if it has one open, is on a directory of `K`. -/
def DirState.On (f : δ → Option Nat) (s : DirState δ ε) (i : Nat) (K : Nat → Prop) : Prop :=
  ∀ h, s.Holds f i h → K (s.dirs h)

/-- The iterator `i` has its data, and its stream is on the same directory with the
    same entries left. -/
structure Untouched (f : δ → Option Nat) (s t : DirState δ ε) (i : Nat) : Prop where
  iter : t.iters[i]? = s.iters[i]?
  stream : ∀ h, s.Holds f i h → t.streams h = s.streams h
  dir : ∀ h, s.Holds f i h → t.dirs h = s.dirs h

variable {f : δ → Option Nat} {s t : DirState δ ε} {i : Nat}

theorem Untouched.refl (f : δ → Option Nat) (s : DirState δ ε) (i : Nat) : Untouched f s s i :=
  ⟨rfl, fun _ _ => rfl, fun _ _ => rfl⟩

/-- The data of another iterator is replaced. -/
theorem Untouched.setIter (h : Untouched f s t i) {j : Nat} (hne : i ≠ j) (d : δ) :
    Untouched f s (t.setIter j d) i :=
  ⟨(List.getElem?_set_ne (Ne.symm hne)).trans h.iter, h.stream, h.dir⟩

/-- A stream is closed, which delivers nothing. -/
theorem Untouched.closeStream (h : Untouched f s t i) (k : Nat) :
    Untouched f s (t.closeStream k) i :=
  ⟨h.iter, h.stream, h.dir⟩

/-- Another iterator reads its stream. -/
theorem untouched_read (hs : StreamsKept f s) {j k : Nat} (hne : i ≠ j) (hj : s.Holds f j k) :
    Untouched f s (s.readStream k).1 i := by
  have hother : ∀ h, s.Holds f i h → h ≠ k := fun h hh heq => hne (hs.apart i j k (heq ▸ hh) hj)
  exact ⟨rfl, fun h hh => if_neg (hother h hh), fun _ _ => rfl⟩

/-- A stream is opened, which is none that is held. -/
theorem untouched_open (hs : StreamsKept f s) (i dir : Nat) (names : List (List Char)) :
    Untouched f s (s.openStream dir names) i := by
  have hold : ∀ h, s.Holds f i h → h ≠ s.handles := fun h hh =>
    Nat.ne_of_lt (hs.ledger.lt ⟨i, hh⟩)
  exact ⟨rfl, fun h hh => if_neg (hold h hh), fun h hh => if_neg (hold h hh)⟩

/-- An iterator is added to those there are. -/
theorem Untouched.push (h : Untouched f s t i) (hi : i < t.iters.length) (d : δ) :
    Untouched f s (t.push d) i :=
  ⟨(List.getElem?_append_left hi).trans h.iter, h.stream, h.dir⟩

theorem getElem?_set_same {d : δ} (hd : s.iters[i]? = some d) (d' : δ) :
    (s.setIter i d').iters[i]? = some d' :=
  List.getElem?_set_self (List.getElem?_eq_some_iff.mp hd).1

end Untouched

section Laws

variable {δ ε : Type} {strerror : Int → List Char} {f : δ → Option Nat}
  {step : DirState δ ε → DirOp ε → DirState δ ε × DirResult}
  {view : DirState δ ε → Nat → Option DirCursor}
  {look : DirState δ ε → List Char → Except Int (List Char × List (List Char))}

end Laws

namespace Posix

/-- The cursor an iterator is. There is none when the directory could not be
    opened. -/
def view (s : State) (i : Nat) : Option DirCursor :=
  match s.iters[i]? with
  | some ⟨true, _⟩ => some .closed
  | some ⟨false, some h⟩ => some (.entries (s.streams h))
  | _ => none

variable {s t : State} {i : Nat} {c : DirCursor}

theorem view_closed {dir : Option Nat} (hd : s.iters[i]? = some ⟨true, dir⟩) :
    view s i = some .closed := by
  simp only [view, hd]

theorem view_open {h : Nat} (hd : s.iters[i]? = some ⟨false, some h⟩) :
    view s i = some (.entries (s.streams h)) := by
  simp only [view, hd]

/-- An iterator that is a cursor is closed, or has a stream open. -/
theorem view_eq_some (hc : view s i = some c) :
    (∃ dir, s.iters[i]? = some ⟨true, dir⟩ ∧ c = .closed) ∨
      ∃ h, s.iters[i]? = some ⟨false, some h⟩ ∧ c = .entries (s.streams h) := by
  unfold view at hc
  rcases hd : s.iters[i]? with _ | ⟨_ | _, _ | h⟩
  · rw [hd] at hc
    exact absurd hc.symm (Option.some_ne_none c)
  · rw [hd] at hc
    exact absurd hc.symm (Option.some_ne_none c)
  · rw [hd] at hc
    exact Or.inr ⟨h, rfl, (Option.some.inj hc).symm⟩
  · rw [hd] at hc
    exact Or.inl ⟨_, rfl, (Option.some.inj hc).symm⟩
  · rw [hd] at hc
    exact Or.inl ⟨_, rfl, (Option.some.inj hc).symm⟩

/-- An iterator that is left alone with its stream is the same cursor. -/
theorem view_frame (ht : Untouched PosixDir.openHandle s t i) (hc : view s i = some c) :
    view t i = some c := by
  rcases view_eq_some hc with ⟨dir, hd, rfl⟩ | ⟨h, hd, rfl⟩
  · exact view_closed (ht.iter.trans hd)
  · rw [view_open (ht.iter.trans hd), ht.stream h ⟨_, hd, rfl⟩]

theorem view_next (look : List Char → Except Int (List Char × List (List Char)))
    (strerror : Int → List Char) (hc : view s i = some c) :
    (dirIter i s).2 = dirAnswer strerror (advance look c).1 ∧
      view (dirIter i s).1 i = some (advance look c).2 := by
  rcases view_eq_some hc with ⟨dir, hd, rfl⟩ | ⟨h, hd, rfl⟩
  · rw [dirIter_closed hd]
    exact ⟨rfl, hc⟩
  · rcases hs : s.streams h with _ | ⟨name, names⟩
    · rw [dirIter_end hd hs]
      exact ⟨rfl, view_closed (getElem?_set_same (s := (s.readStream h).1.closeStream h) hd _)⟩
    · rw [dirIter_entry hd hs]
      refine ⟨rfl, (view_open (s := (s.readStream h).1) hd).trans ?_⟩
      simp only [DirState.readStream, if_true, hs, List.tail_cons, advance]

theorem view_close (hc : view s i = some c) : view (dirClose i s).1 i = some .closed := by
  rcases view_eq_some hc with ⟨dir, hd, _⟩ | ⟨h, hd, _⟩
  · rw [dirClose_idle hd rfl]
    exact view_closed (getElem?_set_same hd _)
  · rw [dirClose_open hd]
    exact view_closed (getElem?_set_same (s := s.closeStream h) hd _)

/-- A `next` of another iterator. -/
theorem untouched_next (hs : StreamsKept PosixDir.openHandle s) {j : Nat} (hne : i ≠ j) :
    Untouched PosixDir.openHandle s (dirIter j s).1 i := by
  rcases hd : s.iters[j]? with _ | ⟨_ | _, _ | h⟩
  · rw [dirIter_none hd]
    exact .refl _ _ _
  · rw [dirIter_null hd]
    exact .refl _ _ _
  · have hread := untouched_read hs hne ⟨_, hd, rfl⟩
    rcases hnames : s.streams h with _ | ⟨name, names⟩
    · rw [dirIter_end hd hnames]
      exact (hread.closeStream h).setIter hne _
    · rw [dirIter_entry hd hnames]
      exact hread
  · rw [dirIter_closed hd]
    exact .refl _ _ _
  · rw [dirIter_closed hd]
    exact .refl _ _ _

theorem untouched_close (s : State) {j : Nat} (hne : i ≠ j) :
    Untouched PosixDir.openHandle s (dirClose j s).1 i := by
  have hrefl : Untouched PosixDir.openHandle s s i := .refl _ _ _
  rcases hd : s.iters[j]? with _ | ⟨_ | _, _ | h⟩
  · rw [dirClose_none hd]
    exact hrefl
  · rw [dirClose_idle hd rfl]
    exact hrefl.setIter hne _
  · rw [dirClose_open hd]
    exact (hrefl.closeStream h).setIter hne _
  · rw [dirClose_idle hd rfl]
    exact hrefl.setIter hne _
  · rw [dirClose_idle hd rfl]
    exact hrefl.setIter hne _

/-- The other iterators after one has been made. -/
theorem untouched_dir (hs : StreamsKept PosixDir.openHandle s) (hi : i < s.iters.length)
    (strerror : Int → List Char) (path : List Char) :
    Untouched PosixDir.openHandle s (dirIterFactory strerror path s).1 i := by
  unfold dirIterFactory
  split
  · rename_i l _
    exact (untouched_open hs i l.dir l.entries).push hi _
  · exact Untouched.push (.refl _ _ _) hi _

/-- A new iterator, on the directory and over the entries it has. -/
theorem view_new {path : List Char} {l : Listing (List (List Char))} (strerror : Int → List Char)
    (hfs : s.fs (cString path) = .ok l) :
    (dirIterFactory strerror path s).2 = .iterator s.iters.length ∧
      view (dirIterFactory strerror path s).1 s.iters.length = some (.entries l.entries) ∧
      (dirIterFactory strerror path s).1.On PosixDir.openHandle s.iters.length (· = l.dir) := by
  simp only [dirIterFactory, hfs, true_and]
  have hnew : ((s.push { closed := false, dir := some s.handles }).openStream l.dir
      l.entries).iters[s.iters.length]? = some ⟨false, some s.handles⟩ :=
    List.getElem?_concat_length
  refine ⟨(view_open hnew).trans ?_, ?_⟩
  · simp only [DirState.openStream, DirState.push, if_true]
  · rintro h ⟨d, hd, hopen⟩
    rw [hnew, Option.some.injEq] at hd
    rw [← hd] at hopen
    rw [← Option.some.inj hopen]
    exact if_pos rfl

end Posix

namespace Windows

/-- The cursor an iterator is. There is none when the path was too long. -/
def view (s : State) (i : Nat) : Option DirCursor :=
  match s.iters[i]? with
  | some ⟨true, _, _⟩ => some .closed
  | some ⟨false, .zero, some p⟩ => some (.pending p)
  | some ⟨false, .handle h, _⟩ => some (.entries (s.streams h))
  | _ => none

/-- How a listing is looked up. -/
def look (s : State) (pattern : List Char) : Except Int (List Char × List (List Char)) :=
  (s.fs pattern).map Listing.entries

variable {s t : State} {i : Nat} {c : DirCursor}

theorem view_closed {hFile : FindHandle} {pattern : Option (List Char)}
    (hd : s.iters[i]? = some ⟨true, hFile, pattern⟩) : view s i = some .closed := by
  simp only [view, hd]

theorem view_pending {p : List Char} (hd : s.iters[i]? = some ⟨false, .zero, some p⟩) :
    view s i = some (.pending p) := by
  simp only [view, hd]

theorem view_open {h : Nat} {pattern : Option (List Char)}
    (hd : s.iters[i]? = some ⟨false, .handle h, pattern⟩) :
    view s i = some (.entries (s.streams h)) := by
  simp only [view, hd]

/-- The ways an iterator is a cursor. -/
inductive ViewOf (s : State) (i : Nat) : DirCursor → Prop where
  | closed {hFile : FindHandle} {pattern : Option (List Char)}
      (hd : s.iters[i]? = some ⟨true, hFile, pattern⟩) : ViewOf s i .closed
  | pending {p : List Char} (hd : s.iters[i]? = some ⟨false, .zero, some p⟩) :
      ViewOf s i (.pending p)
  | entries {h : Nat} {pattern : Option (List Char)}
      (hd : s.iters[i]? = some ⟨false, .handle h, pattern⟩) : ViewOf s i (.entries (s.streams h))

theorem viewOf_of_view (hc : view s i = some c) : ViewOf s i c := by
  unfold view at hc
  rcases hd : s.iters[i]? with _ | ⟨_ | _, _ | _ | h, _ | p⟩ <;>
    simp only [hd, Option.some.injEq, reduceCtorEq] at hc <;> subst hc
  · exact .pending hd
  · exact .entries hd
  · exact .entries hd
  all_goals exact .closed hd

/-- An iterator that is left alone with its stream is the same cursor. -/
theorem view_frame (ht : Untouched WindowsDir.openHandle s t i) (hc : view s i = some c) :
    view t i = some c := by
  cases viewOf_of_view hc with
  | closed hd => exact view_closed (ht.iter.trans hd)
  | pending hd => exact view_pending (ht.iter.trans hd)
  | @entries h _ hd => rw [view_open (ht.iter.trans hd), ht.stream h ⟨_, hd, rfl⟩]

theorem view_next (strerror : Int → List Char) (hc : view s i = some c) :
    (dirIter strerror i s).2 = dirAnswer strerror (advance (look s) c).1 ∧
      view (dirIter strerror i s).1 i = some (advance (look s) c).2 := by
  cases viewOf_of_view hc with
  | closed hd =>
      rw [dirIter_closed hd]
      exact ⟨rfl, hc⟩
  | @pending p hd =>
      -- The directory is looked up now.
      rcases hfs : s.fs p with errno | l
      · have hlook : look s p = .error errno := by rw [look, hfs]; rfl
        rw [dirIter_unfound hd hfs]
        simp only [advance, hlook]
        exact ⟨rfl, view_closed (getElem?_set_same hd _)⟩
      · have hlook : look s p = .ok l.entries := by rw [look, hfs]; rfl
        rw [dirIter_first hd hfs]
        simp only [advance, hlook]
        refine ⟨rfl, (view_open
          (getElem?_set_same (s := s.openStream l.dir l.entries.2) hd _)).trans ?_⟩
        simp only [DirState.openStream, DirState.setIter, if_true]
  | @entries h _ hd =>
      rcases hs : s.streams h with _ | ⟨name, names⟩
      · rw [dirIter_end hd hs]
        exact ⟨rfl, view_closed (getElem?_set_same (s := (s.readStream h).1.closeStream h) hd _)⟩
      · rw [dirIter_entry hd hs]
        refine ⟨rfl, (view_open (s := (s.readStream h).1) hd).trans ?_⟩
        simp only [DirState.readStream, if_true, hs, List.tail_cons, advance]

theorem view_close (hc : view s i = some c) : view (dirClose i s).1 i = some .closed := by
  cases viewOf_of_view hc with
  | closed hd =>
      rw [dirClose_idle hd rfl]
      exact view_closed (getElem?_set_same hd _)
  | pending hd =>
      rw [dirClose_idle hd rfl]
      exact view_closed (getElem?_set_same hd _)
  | @entries h _ hd =>
      rw [dirClose_open hd]
      exact view_closed (getElem?_set_same (s := s.closeStream h) hd _)

/-- A `next` of another iterator. -/
theorem untouched_next (strerror : Int → List Char) (hs : StreamsKept WindowsDir.openHandle s)
    {j : Nat} (hne : i ≠ j) :
    Untouched WindowsDir.openHandle s (dirIter strerror j s).1 i := by
  rcases hd : s.iters[j]? with _ | ⟨_ | _, _ | _ | h, pattern⟩
  · rw [dirIter_none hd]
    exact .refl _ _ _
  · cases pattern with
    | none =>
        rw [dirIter_unwritten hd]
        exact .refl _ _ _
    | some p =>
        rcases hfs : s.fs p with errno | l
        · rw [dirIter_unfound hd hfs]
          exact Untouched.setIter (.refl _ _ _) hne _
        · rw [dirIter_first hd hfs]
          exact (untouched_open hs i l.dir l.entries.2).setIter hne _
  · rw [dirIter_invalid hd]
    exact .refl _ _ _
  · -- The other iterator reads a stream of its own.
    have hread := untouched_read hs hne ⟨_, hd, rfl⟩
    rcases hnames : s.streams h with _ | ⟨name, names⟩
    · rw [dirIter_end hd hnames]
      exact (hread.closeStream h).setIter hne _
    · rw [dirIter_entry hd hnames]
      exact hread
  · rw [dirIter_closed hd]
    exact .refl _ _ _
  · rw [dirIter_closed hd]
    exact .refl _ _ _
  · rw [dirIter_closed hd]
    exact .refl _ _ _

theorem untouched_close (s : State) {j : Nat} (hne : i ≠ j) :
    Untouched WindowsDir.openHandle s (dirClose j s).1 i := by
  have hrefl : Untouched WindowsDir.openHandle s s i := .refl _ _ _
  rcases hd : s.iters[j]? with _ | d
  · rw [dirClose_none hd]
    exact hrefl
  · rcases hidle : d.openHandle with _ | h
    · rw [dirClose_idle hd hidle]
      exact hrefl.setIter hne _
    · rcases d with ⟨closed, hFile, pattern⟩
      rcases openHandle_eq_some hidle with ⟨rfl, rfl⟩
      rw [dirClose_open hd]
      exact (hrefl.closeStream h).setIter hne _

/-- The other iterators after one has been made. -/
theorem untouched_dir (s : State) (hi : i < s.iters.length) (path : List Char) :
    Untouched WindowsDir.openHandle s (dirIterFactory path s).1 i := by
  have hrefl : Untouched WindowsDir.openHandle s s i := .refl _ _ _
  unfold dirIterFactory
  split
  · exact hrefl.push hi _
  · exact hrefl.push hi _

/-- A new iterator, for a path that fits the pattern. -/
theorem view_new {path : List Char} (hlen : (cString path).length ≤ maxPath - 2) :
    (dirIterFactory path s).2 = .iterator s.iters.length ∧
      view (dirIterFactory path s).1 s.iters.length =
        some (.pending (cString path ++ "/*".toList)) := by
  rw [dirIterFactory, if_neg (Nat.not_lt.mpr hlen)]
  exact ⟨rfl, view_pending List.getElem?_concat_length⟩

end Windows

section Enumeration

variable (strerror : Int → List Char)

end Enumeration

end QemuTestdrive
