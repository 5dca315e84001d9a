import QemuTestdrive.Theory.Directory

/-!
# Directory Iterators on Two Platforms

The same script may run on POSIX and on Windows. The directory of an iterator is
opened at another time, so the numbers of the streams differ, and so does what an
iterator has open before its first `next`. A script sees none of that as long as both
platforms list the same entries in the same order for every directory it iterates
over, none of these directories changes, and each has an entry and a path that fits
`pattern`.

The two states are related through their views: the iterators of POSIX are those
of Windows with the listings looked up. Every call keeps the relation and gives
back the same on both sides, whether its iterator is there or not.

## Main definitions

* `IterCall`: A call of a script.
* `Listed`: A directory that both platforms can list.
* `SameIterators`: The states of the two platforms correspond.
* `callResults`: What the calls of a script give back.

## Theorems

* `sameIterators_dir`, `sameIterators_next`, `sameIterators_close`: A call on both
  platforms.
* `platforms_agree`: A script on both platforms.
-/

namespace QemuTestdrive

open Cursors

/-- A call of a script on its iterators. -/
inductive IterCall where
  | dir (path : List Char)
  | next (i : Nat)
  | close (i : Nat)

/-- The call as an operation of a platform. -/
def IterCall.op {ε : Type} : IterCall → DirOp ε
  | .dir path => .dir path
  | .next i => .next i
  | .close i => .close i

/-- Both platforms list the same entries for the directory in the same order, it has
    one at least, and its path fits the pattern. -/
structure Listed (fs : List Char → Except Int (Listing (List (List Char))))
    (fs' : List Char → Except Int (Listing (List Char × List (List Char))))
    (path : List Char) : Prop where
  fits : (cString path).length ≤ Windows.maxPath - 2
  found : ∃ l l', fs (cString path) = .ok l ∧ fs' (cString path ++ "/*".toList) = .ok l' ∧
    l.entries = l'.entries.1 :: l'.entries.2

/-- What the calls of a script give back. -/
def callResults {δ ε : Type} (step : DirState δ ε → DirOp ε → DirState δ ε × DirResult)
    (s : DirState δ ε) : List IterCall → List DirResult
  | [] => []
  | c :: cs => (step s c.op).2 :: callResults step (step s c.op).1 cs

/-- The iterators on POSIX are those on Windows with their listings looked up. -/
structure SameIterators (fs : List Char → Except Int (Listing (List (List Char))))
    (fs' : List Char → Except Int (Listing (List Char × List (List Char)))) (s : Posix.State)
    (t : Windows.State) : Prop where
  posixKept : StreamsKept PosixDir.openHandle s
  windowsKept : StreamsKept WindowsDir.openHandle t
  posixFs : s.fs = fs
  windowsFs : t.fs = fs'
  length : s.iters.length = t.iters.length
  views : ∀ i < s.iters.length, ∃ c, Windows.view t i = some c ∧
    Posix.view s i = some (resolve (Windows.look t) c)

section Lengths

variable (strerror : Int → List Char)

/-- A call on an iterator makes no new one and changes no directory. -/
theorem Posix.dirIter_kept (s : Posix.State) (i : Nat) :
    (Posix.dirIter i s).1.iters.length = s.iters.length ∧ (Posix.dirIter i s).1.fs = s.fs := by
  rcases hd : s.iters[i]? with _ | ⟨_ | _, _ | h⟩
  · rw [Posix.dirIter_none hd]
    exact ⟨rfl, rfl⟩
  · rw [Posix.dirIter_null hd]
    exact ⟨rfl, rfl⟩
  · rcases hs : s.streams h with _ | ⟨name, names⟩
    · rw [Posix.dirIter_end hd hs]
      exact ⟨List.length_set, rfl⟩
    · rw [Posix.dirIter_entry hd hs]
      exact ⟨rfl, rfl⟩
  · rw [Posix.dirIter_closed hd]
    exact ⟨rfl, rfl⟩
  · rw [Posix.dirIter_closed hd]
    exact ⟨rfl, rfl⟩

theorem Posix.dirClose_kept (s : Posix.State) (i : Nat) :
    (Posix.dirClose i s).1.iters.length = s.iters.length ∧ (Posix.dirClose i s).1.fs = s.fs := by
  rcases hd : s.iters[i]? with _ | d
  · rw [Posix.dirClose_none hd]
    exact ⟨rfl, rfl⟩
  · unfold Posix.dirClose
    simp only [hd]
    split
    · exact ⟨List.length_set, rfl⟩
    · exact ⟨List.length_set, rfl⟩

theorem Windows.dirIter_kept (t : Windows.State) (i : Nat) :
    (Windows.dirIter strerror i t).1.iters.length = t.iters.length ∧
      (Windows.dirIter strerror i t).1.fs = t.fs := by
  rcases hd : t.iters[i]? with _ | ⟨_ | _, _ | _ | h, pattern⟩
  · rw [Windows.dirIter_none hd]
    exact ⟨rfl, rfl⟩
  · cases pattern with
    | none =>
        rw [Windows.dirIter_unwritten hd]
        exact ⟨rfl, rfl⟩
    | some p =>
        rcases hfs : t.fs p with errno | ⟨name, names⟩
        · rw [Windows.dirIter_unfound hd hfs]
          exact ⟨List.length_set, rfl⟩
        · rw [Windows.dirIter_first hd hfs]
          exact ⟨List.length_set, rfl⟩
  · rw [Windows.dirIter_invalid hd]
    exact ⟨rfl, rfl⟩
  · rcases hs : t.streams h with _ | ⟨name, names⟩
    · rw [Windows.dirIter_end hd hs]
      exact ⟨List.length_set, rfl⟩
    · rw [Windows.dirIter_entry hd hs]
      exact ⟨rfl, rfl⟩
  · rw [Windows.dirIter_closed hd]
    exact ⟨rfl, rfl⟩
  · rw [Windows.dirIter_closed hd]
    exact ⟨rfl, rfl⟩
  · rw [Windows.dirIter_closed hd]
    exact ⟨rfl, rfl⟩

theorem Windows.dirClose_kept (t : Windows.State) (i : Nat) :
    (Windows.dirClose i t).1.iters.length = t.iters.length ∧
      (Windows.dirClose i t).1.fs = t.fs := by
  rcases hd : t.iters[i]? with _ | d
  · rw [Windows.dirClose_none hd]
    exact ⟨rfl, rfl⟩
  · unfold Windows.dirClose
    simp only [hd]
    split
    · exact ⟨List.length_set, rfl⟩
    · exact ⟨List.length_set, rfl⟩

end Lengths

section Calls

variable {fs : List Char → Except Int (Listing (List (List Char)))}
  {fs' : List Char → Except Int (Listing (List Char × List (List Char)))} {s : Posix.State}
  {t : Windows.State} (strerror : Int → List Char)

theorem look_congr {t' : Windows.State} (h : t'.fs = t.fs) :
    Windows.look t' = Windows.look t := by
  unfold Windows.look
  rw [h]

/-- The views after a call that leaves all iterators but `i` alone. -/
theorem SameIterators.of_call (h : SameIterators fs fs' s t) {i : Nat} {s' : Posix.State}
    {t' : Windows.State} (hs' : StreamsKept PosixDir.openHandle s')
    (ht' : StreamsKept WindowsDir.openHandle t')
    (hs : s'.iters.length = s.iters.length ∧ s'.fs = s.fs)
    (ht : t'.iters.length = t.iters.length ∧ t'.fs = t.fs)
    (hothers : ∀ j, j ≠ i → Untouched PosixDir.openHandle s s' j)
    (hothers' : ∀ j, j ≠ i → Untouched WindowsDir.openHandle t t' j)
    (hself : i < s.iters.length → ∃ c, Windows.view t' i = some c ∧
      Posix.view s' i = some (resolve (Windows.look t) c)) : SameIterators fs fs' s' t' := by
  refine ⟨hs', ht', hs.2.trans h.posixFs, ht.2.trans h.windowsFs, ?_, fun j hj => ?_⟩
  · rw [hs.1, ht.1, h.length]
  · rw [hs.1] at hj
    rw [look_congr ht.2]
    by_cases hji : j = i
    · rw [hji]
      exact hself (hji ▸ hj)
    · rcases h.views j hj with ⟨c, hc', hc⟩
      exact ⟨c, Windows.view_frame (hothers' j hji) hc', Posix.view_frame (hothers j hji) hc⟩

theorem sameIterators_next (h : SameIterators fs fs' s t) (i : Nat) :
    (Posix.dirIter i s).2 = (Windows.dirIter strerror i t).2 ∧
      SameIterators fs fs' (Posix.dirIter i s).1 (Windows.dirIter strerror i t).1 := by
  have hcall : (i < s.iters.length → ∃ c, Windows.view (Windows.dirIter strerror i t).1 i = some c ∧
      Posix.view (Posix.dirIter i s).1 i = some (resolve (Windows.look t) c)) →
      SameIterators fs fs' (Posix.dirIter i s).1 (Windows.dirIter strerror i t).1 :=
    h.of_call (Posix.streamsKept_dirIter h.posixKept i)
      (Windows.streamsKept_dirIter strerror h.windowsKept i) (Posix.dirIter_kept s i)
      (Windows.dirIter_kept strerror t i) (fun _ hne => Posix.untouched_next h.posixKept hne)
      (fun _ hne => Windows.untouched_next strerror h.windowsKept hne)
  by_cases hi : i < s.iters.length
  · rcases h.views i hi with ⟨c, hc', hc⟩
    rcases Posix.view_next (Windows.look t) strerror hc with ⟨hout, hview⟩
    rcases Windows.view_next strerror hc' with ⟨hout', hview'⟩
    -- The listing was looked up on one side before, and is looked up now on the other.
    rw [advance_resolve] at hout hview
    refine ⟨hout.trans hout'.symm, hcall fun _ => ⟨_, hview', ?_⟩⟩
    rw [hview, resolve_resolved _ (resolved_advance _ c)]
  · have hnone : s.iters[i]? = none := List.getElem?_eq_none (Nat.not_lt.mp hi)
    have hnone' : t.iters[i]? = none :=
      List.getElem?_eq_none (by rw [← h.length]; exact Nat.not_lt.mp hi)
    refine ⟨?_, hcall fun hlt => absurd hlt hi⟩
    rw [Posix.dirIter_none hnone, Windows.dirIter_none hnone']

theorem sameIterators_close (h : SameIterators fs fs' s t) (i : Nat) :
    (Posix.dirClose i s).2 = (Windows.dirClose i t).2 ∧
      SameIterators fs fs' (Posix.dirClose i s).1 (Windows.dirClose i t).1 := by
  constructor
  · -- Without an iterator both go through a null pointer.
    unfold Posix.dirClose Windows.dirClose
    by_cases hi : i < s.iters.length
    · rw [List.getElem?_eq_getElem hi, List.getElem?_eq_getElem (h.length ▸ hi)]
    · rw [List.getElem?_eq_none (Nat.not_lt.mp hi),
        List.getElem?_eq_none (h.length ▸ Nat.not_lt.mp hi)]
  · refine h.of_call (i := i) (Posix.streamsKept_dirClose h.posixKept i)
      (Windows.streamsKept_dirClose h.windowsKept i) (Posix.dirClose_kept s i)
      (Windows.dirClose_kept t i) (fun _ hne => Posix.untouched_close s hne)
      (fun _ hne => Windows.untouched_close t hne) fun hi => ?_
    rcases h.views i hi with ⟨c, hc', hc⟩
    exact ⟨.closed, Windows.view_close hc', Posix.view_close hc⟩

theorem sameIterators_dir (h : SameIterators fs fs' s t) {path : List Char}
    (hlisted : Listed fs fs' path) :
    (Posix.dirIterFactory strerror path s).2 = (Windows.dirIterFactory path t).2 ∧
      SameIterators fs fs' (Posix.dirIterFactory strerror path s).1
        (Windows.dirIterFactory path t).1 := by
  rcases hlisted.found with ⟨l, l', hfound, hfound', hentries⟩
  have hfs : s.fs (cString path) = .ok l := by rw [h.posixFs, hfound]
  have hlook : Windows.look t (cString path ++ "/*".toList) = .ok l'.entries := by
    rw [Windows.look, h.windowsFs, hfound']
    rfl
  rcases Posix.view_new strerror hfs with ⟨hout, hview, _⟩
  rcases Windows.view_new (s := t) hlisted.fits with ⟨hout', hview'⟩
  have hlength : (Posix.dirIterFactory strerror path s).1.iters.length = s.iters.length + 1 ∧
      (Posix.dirIterFactory strerror path s).1.fs = s.fs := by
    simp only [Posix.dirIterFactory, hfs]
    exact ⟨List.length_append, rfl⟩
  have hlength' : (Windows.dirIterFactory path t).1.iters.length = t.iters.length + 1 ∧
      (Windows.dirIterFactory path t).1.fs = t.fs := by
    rw [Windows.dirIterFactory, if_neg (Nat.not_lt.mpr hlisted.fits)]
    exact ⟨List.length_append, rfl⟩
  refine ⟨by rw [hout, hout', h.length], Posix.streamsKept_step strerror s (.dir path) h.posixKept,
    Windows.streamsKept_step strerror t (.dir path) h.windowsKept, hlength.2.trans h.posixFs,
    hlength'.2.trans h.windowsFs, by rw [hlength.1, hlength'.1, h.length], fun i hi => ?_⟩
  rw [hlength.1] at hi
  rw [look_congr hlength'.2]
  rcases Nat.lt_or_eq_of_le (Nat.lt_succ_iff.mp hi) with hlt | rfl
  · rcases h.views i hlt with ⟨c, hc', hc⟩
    exact ⟨c, Windows.view_frame (Windows.untouched_dir t (h.length ▸ hlt) path) hc',
      Posix.view_frame (Posix.untouched_dir h.posixKept hlt strerror path) hc⟩
  · refine ⟨_, h.length ▸ hview', ?_⟩
    rw [hview, hentries]
    simp only [resolve, hlook]

/-- Every call gives back the same on both platforms, and keeps them alike. -/
theorem sameIterators_step (h : SameIterators fs fs' s t) (c : IterCall)
    (hlisted : ∀ path, c = .dir path → Listed fs fs' path) :
    (Posix.dirStep strerror s c.op).2 = (Windows.dirStep strerror t c.op).2 ∧
      SameIterators fs fs' (Posix.dirStep strerror s c.op).1
        (Windows.dirStep strerror t c.op).1 := by
  cases c with
  | dir path => exact sameIterators_dir strerror h (hlisted path rfl)
  | next i => exact sameIterators_next strerror h i
  | close i => exact sameIterators_close h i

end Calls

/-- A script gets the same answers on both platforms, in whatever order it uses its
    iterators, if both list the same entries in the same order for all its directories,
    and no directory changes. -/
theorem platforms_agree (strerror : Int → List Char)
    (fs : List Char → Except Int (Listing (List (List Char))))
    (fs' : List Char → Except Int (Listing (List Char × List (List Char))))
    (calls : List IterCall) (hlisted : ∀ path, .dir path ∈ calls → Listed fs fs' path) :
    callResults (Posix.dirStep strerror) (DirState.start fs) calls =
      callResults (Windows.dirStep strerror) (DirState.start fs') calls := by
  have hrun : ∀ (calls : List IterCall) s t, SameIterators fs fs' s t →
      (∀ path, .dir path ∈ calls → Listed fs fs' path) →
      callResults (Posix.dirStep strerror) s calls =
        callResults (Windows.dirStep strerror) t calls := by
    intro calls
    induction calls with
    | nil => intro s t _ _; rfl
    | cons c calls ih =>
        intro s t h hlisted
        rcases sameIterators_step strerror h c fun path hc =>
          hlisted path (hc ▸ List.mem_cons_self) with ⟨hout, hnext⟩
        rw [callResults, callResults, hout, ih _ _ hnext fun path hpath =>
          hlisted path (List.mem_cons_of_mem c hpath)]
  refine hrun calls _ _ ⟨streamsKept_start _ fs, streamsKept_start _ fs', rfl, rfl, rfl,
    fun i hi => ?_⟩ hlisted
  exact absurd hi (Nat.not_lt_zero i)

/-- Two iterators over a directory with one entry, and one that is not there. -/
theorem platforms_agree_two :
    callResults (Posix.dirStep fun _ => [])
        (DirState.start fun _ => .ok { dir := 0, entries := [['a']] })
        [.dir ['d'], .dir ['d'], .next 1, .next 0, .next 1, .close 0, .next 0, .close 2] =
      callResults (Windows.dirStep fun _ => [])
        (DirState.start fun _ => .ok { dir := 0, entries := (['a'], []) })
        [.dir ['d'], .dir ['d'], .next 1, .next 0, .next 1, .close 0, .next 0, .close 2] :=
  platforms_agree (fun _ => []) (fun _ => .ok { dir := 0, entries := [['a']] })
    (fun _ => .ok { dir := 0, entries := (['a'], []) })
    [.dir ['d'], .dir ['d'], .next 1, .next 0, .next 1, .close 0, .next 0, .close 2]
    fun path hpath => by
      simp only [List.mem_cons, reduceCtorEq, IterCall.dir.injEq, List.not_mem_nil, or_false,
        or_self] at hpath
      rw [hpath]
      exact ⟨by decide, _, _, rfl, rfl, rfl⟩

end QemuTestdrive
