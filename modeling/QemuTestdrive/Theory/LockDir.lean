import QemuTestdrive.Core.LockDir
import QemuTestdrive.Lib.Marks
import QemuTestdrive.Lib.Runs

/-!
# When Directory Locks Exclude

A lock file says that its directory is locked, and a process that finds none takes
the lock. So the locks exclude each other as long as the directories with a lock
file are those that are held, each by one lock, and `Accurate` says so for marks
of any kind.

On POSIX the file is removed by its name, which is looked up again from the
working directory there is then, and nothing checks what it leads to. A lock that
was taken by a relative name and freed after a `chdir` leaves its file behind, and
may remove that of another process. So does a process that ends without
collecting its locks, and an `unlink` that fails. These are all the ways:
`posixLocks_run` gives the exact condition on a run.

On Windows the file is tied to a handle, and needs no condition.

## Main definitions

* `Posix.place`, `Windows.place`: The directory a lock holds.
* `Posix.KeepsLocks`: An operation takes no lock away but its own.
* `Posix.LocksKept`, `Windows.LocksKept`: The locks exclude each other, and are
  granted when they are free.
* `Windows.HandlesKept`: The locks and the handles that are open.

## Theorems

* `Posix.locks_step_iff`: One operation on POSIX.
* `posixLocks_run`: Every run on POSIX, with its exact condition.
* `Windows.handlesKept_unlockDir`, `Windows.handlesKept_step`: The operations on
  Windows.
* `windowsLocks_run`: Every run on Windows.
-/

namespace QemuTestdrive

open Marks

namespace Posix

section Place

variable {ι : Type}

/-- The directory a lock holds. -/
def place (s : PosixLocks ι) (l : Nat) : Option ι :=
  (s.locks[l]?).bind fun k => if k.ln.isSome then some k.dir else none

/-- The directories with a lock file are those that are held, each by one lock. -/
def LocksAccurate (s : PosixLocks ι) : Prop :=
  Accurate (· ∈ s.files) (place s)

/-- The operation takes away the file of the lock it is called on, and no process
    ends that holds a lock. -/
def KeepsLocks (fs : LockFileSystem ι) (s : PosixLocks ι) : LockOp → Prop
  | .unlockDir l fault => ∀ k ln, s.locks[l]? = some k → k.ln = some ln →
      fault = false ∧ fs.parent (s.cwd k.owner) ln = .ok k.dir
  | .kill p => ∀ k ∈ s.locks, k.owner = p → k.ln = none
  | _ => True

variable {fs : LockFileSystem ι} {s : PosixLocks ι}

theorem place_eq {l : Nat} {k : PosixLock ι} (hk : s.locks[l]? = some k) :
    place s l = if k.ln.isSome then some k.dir else none := by
  rw [place, hk, Option.bind_some]

/-- A lock that holds a directory has the name of its file. -/
theorem place_eq_some {l : Nat} {d : ι} (h : place s l = some d) :
    ∃ k ln, s.locks[l]? = some k ∧ k.ln = some ln ∧ k.dir = d := by
  rcases hk : s.locks[l]? with _ | k
  · rw [place, hk] at h
    exact absurd h.symm (Option.some_ne_none d)
  · rw [place_eq hk] at h
    rcases hln : k.ln with _ | ln
    · rw [hln] at h
      exact absurd h.symm (Option.some_ne_none d)
    · rw [hln] at h
      exact ⟨k, ln, rfl, hln, Option.some.inj h⟩

/-- The locks after one has been freed. -/
theorem place_set {l : Nat} {k : PosixLock ι} (hk : s.locks[l]? = some k) (files : List ι)
    (j : Nat) :
    place { s with files := files, locks := s.locks.set l { k with ln := none } } j =
      if j = l then none else place s j := by
  unfold place
  by_cases hjl : j = l
  · rw [if_pos hjl, hjl, List.getElem?_set_self (List.getElem?_eq_some_iff.mp hk).1]
    rfl
  · rw [if_neg hjl, List.getElem?_set_ne (Ne.symm hjl)]

/-- A process may end exactly when it holds no lock. -/
theorem accurate_kill_iff (h : LocksAccurate s) (p : Nat) :
    LocksAccurate (kill p s) ↔ KeepsLocks fs s (.kill p) := by
  have hget : ∀ l, (kill p s).locks[l]? =
      (s.locks[l]?).map fun k : PosixLock ι => if k.owner = p then { k with ln := none } else k :=
    fun l => List.getElem?_map
  constructor
  · intro hafter k hmem howner
    by_contra hln
    rcases List.getElem?_of_mem hmem with ⟨l, hl⟩
    rcases Option.ne_none_iff_exists'.mp hln with ⟨ln, hln⟩
    have hplace : place s l = some k.dir := by
      rw [place_eq hl, hln]
      rfl
    -- Its lock is gone, and its file is not.
    refine Accurate.not_of_left h hplace ?_ (fun j hj => ?_)
      ((h.marked_iff k.dir).mpr ⟨l, hplace⟩) hafter
    · rw [place, hget, hl, Option.map_some, if_pos howner]
      rfl
    · rcases place_eq_some hj with ⟨k', ln', hk', hln', hdir⟩
      rw [hget, Option.map_eq_some_iff] at hk'
      rcases hk' with ⟨k₀, hk₀, heq⟩
      by_cases hp : k₀.owner = p
      · rw [if_pos hp] at heq
        rw [← heq] at hln'
        exact absurd hln'.symm (Option.some_ne_none ln')
      · rw [if_neg hp] at heq
        subst heq
        rw [place_eq hk₀, hln', ← hdir]
        rfl
  · intro hc
    -- Nothing of the process was held, so every lock stays what it is.
    refine h.congr (fun d => Iff.rfl) fun l => ?_
    rw [place, hget, place]
    rcases hk : s.locks[l]? with _ | k
    · rfl
    · rw [Option.map_some, Option.bind_some, Option.bind_some]
      by_cases hp : k.owner = p
      · rw [if_pos hp, hc k (List.mem_of_getElem? hk) hp]
      · rw [if_neg hp]

end Place

variable {ι : Type} [DecidableEq ι] (fs : LockFileSystem ι) (strerror : Int → List Char)

/-- The locks exclude each other, and one that meets no error of its own is granted
    exactly when nobody holds the directory. -/
structure LocksKept (s : PosixLocks ι) : Prop where
  accurate : LocksAccurate s
  grants : ∀ p path d, fs.parent (s.cwd p) (cString path ++ lockfile) = .ok d →
    ((lockDir fs strerror p path none s).2 = .lock s.locks.length ↔ ∀ l, place s l ≠ some d)

variable {fs strerror} {s : PosixLocks ι}

/-- A lock that is accurate about the marks is granted when nobody holds it. -/
theorem locksKept_iff : LocksKept fs strerror s ↔ LocksAccurate s := by
  refine ⟨LocksKept.accurate, fun h => ⟨h, fun p path d hd => ?_⟩⟩
  unfold lockDir
  simp only [hd]
  by_cases hmem : d ∈ s.files
  · rw [if_pos hmem]
    refine iff_of_false LockResult.noConfusion fun hfree => ?_
    rcases (h.marked_iff d).mp hmem with ⟨l, hl⟩
    exact hfree l hl
  · rw [if_neg hmem]
    exact iff_of_true rfl fun l hl => hmem ((h.marked_iff d).mpr ⟨l, hl⟩)

theorem accurate_lockDir (h : LocksAccurate s) (p : Nat) (path : List Char)
    (fault : Option Int) : LocksAccurate (lockDir fs strerror p path fault s).1 := by
  unfold lockDir
  simp only
  split
  · exact h
  · split
    · exact h
    · rename_i d _
      split
      · exact h
      · rename_i hfree
        -- The new lock has the next number, and its directory has no file yet.
        refine Accurate.grant h (n := s.locks.length) (d := d) hfree ?_ (fun e => ?_) fun l => ?_
        · rw [place, List.getElem?_eq_none (Nat.le_refl _)]
          rfl
        · rw [List.mem_cons, or_comm]
        · rcases Nat.lt_trichotomy l s.locks.length with hlt | rfl | hgt
          · rw [place, List.getElem?_append_left hlt, if_neg (Nat.ne_of_lt hlt)]
            rfl
          · rw [place, List.getElem?_concat_length, if_pos rfl]
            rfl
          · have hlen : (s.locks ++ [(⟨p, some (cString path ++ lockfile), d⟩ : PosixLock ι)]).length
                ≤ l := by
              rw [List.length_append, List.length_singleton]
              exact hgt
            rw [place, List.getElem?_eq_none hlen, if_neg (Nat.ne_of_gt hgt), place,
              List.getElem?_eq_none (Nat.le_of_lt hgt)]

/-- A lock is freed with its file exactly when its name leads to it and the file can
    be removed. -/
theorem accurate_unlockDir_iff (h : LocksAccurate s) (l : Nat) (fault : Bool) :
    LocksAccurate (unlockDir fs l fault s) ↔ KeepsLocks fs s (.unlockDir l fault) := by
  rcases hk : s.locks[l]? with _ | k
  · unfold unlockDir KeepsLocks
    simp only [hk]
    exact iff_of_true h fun k ln hnone => absurd hnone.symm (Option.some_ne_none k)
  · rcases hln : k.ln with _ | ln
    · unfold unlockDir KeepsLocks
      simp only [hk, hln]
      refine iff_of_true h fun k' ln hk' hln' => ?_
      rw [← Option.some.inj hk', hln] at hln'
      exact absurd hln'.symm (Option.some_ne_none ln)
    · have hplace : place s l = some k.dir := by
        rw [place_eq hk, hln]
        rfl
      have hkeeps : KeepsLocks fs s (.unlockDir l fault) ↔
          fault = false ∧ fs.parent (s.cwd k.owner) ln = .ok k.dir := by
        constructor
        · exact fun hc => hc k ln hk hln
        · intro hc k' ln' hk' hln'
          rw [hk, Option.some.injEq] at hk'
          subst hk'
          rw [hln, Option.some.injEq] at hln'
          subst hln'
          exact hc
      rw [hkeeps]
      unfold unlockDir
      simp only [hk, hln]
      constructor
      · intro hafter
        by_contra hc
        -- The file is still there, and the lock is gone.
        refine Accurate.not_of_left h hplace (by rw [place_set hk, if_pos rfl]) (fun j hj => ?_)
          ?_ hafter
        · rw [place_set hk] at hj
          by_cases hjl : j = l
          · rw [if_pos hjl] at hj
            exact absurd hj.symm (Option.some_ne_none _)
          · rwa [if_neg hjl] at hj
        · have hmem : k.dir ∈ s.files := (h.marked_iff k.dir).mpr ⟨l, hplace⟩
          simp only
          split
          · rename_i d hd
            refine List.mem_filter.mpr ⟨hmem, decide_eq_true fun heq => hc ⟨rfl, ?_⟩⟩
            rw [hd, heq]
          · exact hmem
      · rintro ⟨rfl, hd⟩
        refine Accurate.giveBack h hplace (fun e => ?_) fun j => place_set hk _ j
        simp only [hd]
        rw [List.mem_filter, decide_eq_true_iff]

/-- One operation keeps the locks accurate exactly under the condition. -/
theorem locks_step_iff (h : LocksAccurate s) (op : LockOp) :
    LocksAccurate (lockStep fs strerror s op).1 ↔ KeepsLocks fs s op := by
  cases op with
  | lockDir p path fault => exact iff_of_true (accurate_lockDir h p path fault) trivial
  | unlockDir l fault => exact accurate_unlockDir_iff h l fault
  | changeDir p path =>
      refine iff_of_true ?_ trivial
      unfold lockStep changeDir
      simp only
      split
      · exact h
      · exact h
  | kill p => exact accurate_kill_iff h p

end Posix

/-- On POSIX, the locks of any number of processes exclude each other in every state
    of a run exactly when each lock that is freed is looked up where it was made and
    can be removed, and no process ends that holds one. -/
theorem posixLocks_run {ι : Type} [DecidableEq ι] (fs : LockFileSystem ι)
    (strerror : Int → List Char) (cwd : Nat → ι) (ops : List LockOp) :
    Runs.Always (fun s op => (Posix.lockStep fs strerror s op).1) (Posix.LocksKept fs strerror)
        { cwd := cwd, locks := [], files := [] } ops ↔
      Runs.Each (fun s op => (Posix.lockStep fs strerror s op).1) (Posix.KeepsLocks fs)
        { cwd := cwd, locks := [], files := [] } ops := by
  refine Runs.always_iff_each _ (I := fun _ => True) (fun _ _ _ => trivial)
    (fun s op _ h => ?_) ops _ trivial (Posix.locksKept_iff.mpr ?_)
  · rw [Posix.locksKept_iff]
    exact Posix.locks_step_iff (Posix.locksKept_iff.mp h) op
  · refine ⟨fun d => iff_of_false List.not_mem_nil ?_, fun l l' d hl => ?_⟩
    · rintro ⟨l, hl⟩
      exact Option.some_ne_none d hl.symm
    · exact absurd hl.symm (Option.some_ne_none d)

namespace Windows

section Place

variable {ι : Type}

/-- The directory a lock holds: the one its handle is open on. -/
def place (s : WindowsLocks ι) (l : Nat) : Option ι :=
  (s.locks[l]?).bind fun k => (k.fd).bind fun h => (s.opened[h]?).join

/-- The handles that are open are those of the locks, each of one lock and on a
    directory of its own. -/
structure HandlesKept (s : WindowsLocks ι) : Prop where
  accurate : Accurate (fun d => some d ∈ s.opened) (place s)
  live : ∀ (l : Nat) (k : WindowsLock) (h : Nat), s.locks[l]? = some k → k.fd = some h →
    ∃ d, s.opened[h]? = some (some d)
  single : ∀ (h h' : Nat) (d : ι), s.opened[h]? = some (some d) →
    s.opened[h']? = some (some d) → h = h'

variable {s : WindowsLocks ι}

theorem place_eq {l h : Nat} {k : WindowsLock} {d : ι} (hk : s.locks[l]? = some k)
    (hh : k.fd = some h) (hd : s.opened[h]? = some (some d)) : place s l = some d := by
  rw [place, hk, Option.bind_some, hh, Option.bind_some, hd]
  rfl

/-- Two locks do not share a handle. -/
theorem HandlesKept.apart (hs : HandlesKept s) {l l' h : Nat} {k k' : WindowsLock}
    (hk : s.locks[l]? = some k) (hk' : s.locks[l']? = some k') (hh : k.fd = some h)
    (hh' : k'.fd = some h) : l = l' := by
  rcases hs.live l k h hk hh with ⟨d, hd⟩
  exact hs.accurate.exclusive l l' d (place_eq hk hh hd) (place_eq hk' hh' hd)

/-- A lock is freed together with its handle. -/
theorem handlesKept_unlockDir (hs : HandlesKept s) (l : Nat) : HandlesKept (unlockDir l s) := by
  unfold unlockDir
  rcases hk : s.locks[l]? with _ | k
  · exact hs
  · rcases hh : k.fd with _ | h
    · simp only [hh]
      exact hs
    · simp only [hh]
      rcases hs.live l k h hk hh with ⟨d, hd⟩
      have hopened : ∀ i e, (s.opened.set h none)[i]? = some (some e) ↔
          i ≠ h ∧ s.opened[i]? = some (some e) := by
        intro i e
        by_cases hih : i = h
        · rw [hih, List.getElem?_set_self (List.getElem?_eq_some_iff.mp hd).1]
          simp
        · rw [List.getElem?_set_ne (Ne.symm hih)]
          exact (and_iff_right hih).symm
      -- Another lock keeps its handle, which is another one.
      have hothers : ∀ j k', j ≠ l → s.locks[j]? = some k' → k'.fd ≠ some h :=
        fun j k' hne hj hh' => hne (hs.apart hj hk hh' hh)
      refine ⟨hs.accurate.giveBack (place_eq hk hh hd) (fun e => ?_) fun j => ?_, ?_, ?_⟩
      · simp only [List.mem_iff_getElem?, hopened]
        constructor
        · rintro ⟨i, hih, hi⟩
          exact ⟨⟨i, hi⟩, fun heq => hih (hs.single i h d (heq ▸ hi) hd)⟩
        · rintro ⟨⟨i, hi⟩, hne⟩
          refine ⟨i, fun hih => hne ?_, hi⟩
          rw [hih, hd] at hi
          exact (Option.some.inj (Option.some.inj hi)).symm
      · unfold place
        by_cases hjl : j = l
        · rw [if_pos hjl, hjl, List.getElem?_set_self (List.getElem?_eq_some_iff.mp hk).1]
          rfl
        · rw [if_neg hjl, List.getElem?_set_ne (Ne.symm hjl)]
          rcases hj : s.locks[j]? with _ | k'
          · rfl
          · rw [Option.bind_some, Option.bind_some]
            rcases hh' : k'.fd with _ | h'
            · rfl
            · have hne : h' ≠ h := fun heq => hothers j k' hjl hj (heq ▸ hh')
              rw [Option.bind_some, Option.bind_some, List.getElem?_set_ne (Ne.symm hne)]
      · intro j k' h' hj hh'
        by_cases hjl : j = l
        · rw [hjl, List.getElem?_set_self (List.getElem?_eq_some_iff.mp hk).1] at hj
          rw [← Option.some.inj hj] at hh'
          exact absurd hh'.symm (Option.some_ne_none h')
        · rw [List.getElem?_set_ne (Ne.symm hjl)] at hj
          rcases hs.live j k' h' hj hh' with ⟨e, he⟩
          exact ⟨e, (hopened h' e).mpr ⟨fun heq => hothers j k' hjl hj (heq ▸ hh'), he⟩⟩
      · intro i j e hi hj
        exact hs.single i j e ((hopened i e).mp hi).2 ((hopened j e).mp hj).2

theorem handlesKept_kill (hs : HandlesKept s) (p : Nat) : HandlesKept (kill p s) := by
  unfold kill
  generalize List.range s.locks.length = ls
  induction ls generalizing s with
  | nil => exact hs
  | cons l ls ih =>
      rw [List.foldl_cons]
      split
      · exact ih (handlesKept_unlockDir hs l)
      · exact ih hs

/-- A list after one entry has been added at its end. -/
theorem getElem?_concat_iff {α : Type} (xs : List α) (x y : α) (i : Nat) :
    (xs ++ [x])[i]? = some y ↔ xs[i]? = some y ∨ i = xs.length ∧ x = y := by
  rcases Nat.lt_trichotomy i xs.length with hlt | rfl | hgt
  · rw [List.getElem?_append_left hlt]
    exact (or_iff_left fun h => Nat.ne_of_lt hlt h.1).symm
  · rw [List.getElem?_concat_length, List.getElem?_eq_none (Nat.le_refl _)]
    simp
  · have hlen : (xs ++ [x]).length ≤ i := by
      rw [List.length_append, List.length_singleton]
      exact hgt
    rw [List.getElem?_eq_none hlen, List.getElem?_eq_none (Nat.le_of_lt hgt)]
    simp [Nat.ne_of_gt hgt]

/-- The locks after one has been made. -/
theorem place_concat (hs : HandlesKept s) (p : Nat) (d : ι) (l : Nat) :
    place { s with
        opened := s.opened ++ [some d]
        locks := s.locks ++ [{ owner := p, fd := some s.opened.length }] } l =
      if l = s.locks.length then some d else place s l := by
  unfold place
  simp only
  rcases Nat.lt_trichotomy l s.locks.length with hlt | rfl | hgt
  · rw [if_neg (Nat.ne_of_lt hlt), List.getElem?_append_left hlt]
    rcases hk : s.locks[l]? with _ | k
    · rfl
    · rw [Option.bind_some, Option.bind_some]
      rcases hh : k.fd with _ | h
      · rfl
      · -- Its handle was there before.
        rcases hs.live l k h hk hh with ⟨e, he⟩
        rw [Option.bind_some, Option.bind_some,
          List.getElem?_append_left (List.getElem?_eq_some_iff.mp he).1]
  · rw [if_pos rfl, List.getElem?_concat_length, Option.bind_some, Option.bind_some,
      List.getElem?_concat_length]
    rfl
  · have hlen : (s.locks ++
        [({ owner := p, fd := some s.opened.length } : WindowsLock)]).length ≤ l := by
      rw [List.length_append, List.length_singleton]
      exact hgt
    rw [if_neg (Nat.ne_of_gt hgt), List.getElem?_eq_none hlen,
      List.getElem?_eq_none (Nat.le_of_lt hgt), Option.bind_none, Option.bind_none]

end Place

variable {ι : Type} [DecidableEq ι] (fs : LockFileSystem ι) (strerror : Int → List Char)

/-- The locks exclude each other, and one that meets no error of its own is granted
    exactly when nobody holds the directory. -/
structure LocksKept (s : WindowsLocks ι) : Prop where
  accurate : Accurate (fun d => some d ∈ s.opened) (place s)
  grants : ∀ p path d, fs.parent (s.cwd p) (cString path ++ lockfile) = .ok d →
    ((lockDir fs strerror p path none s).2 = .lock s.locks.length ↔ ∀ l, place s l ≠ some d)

variable {s : WindowsLocks ι}

theorem handlesKept_lockDir (hs : HandlesKept s) (p : Nat) (path : List Char)
    (fault : Option Int) : HandlesKept (lockDir fs strerror p path fault s).1 := by
  unfold lockDir
  simp only
  split
  · exact hs
  · split
    · exact hs
    · rename_i d _
      split
      · exact hs
      · rename_i hfree
        have hnew : ∀ h e, s.opened[h]? = some (some e) → h ≠ s.opened.length := fun h e he =>
          Nat.ne_of_lt (List.getElem?_eq_some_iff.mp he).1
        refine ⟨hs.accurate.grant (n := s.locks.length) (d := d) hfree ?_ (fun e => ?_)
          fun l => ?_, fun l k h hk hh => ?_, fun h h' e he he' => ?_⟩
        · rw [place, List.getElem?_eq_none (Nat.le_refl _)]
          rfl
        · rw [List.mem_append, List.mem_singleton, Option.some.injEq]
        · exact place_concat hs p d l
        · rw [getElem?_concat_iff] at hk
          rcases hk with hk | ⟨_, rfl⟩
          · rcases hs.live l k h hk hh with ⟨e, he⟩
            exact ⟨e, (getElem?_concat_iff _ _ _ _).mpr (Or.inl he)⟩
          · exact ⟨d, (getElem?_concat_iff _ _ _ _).mpr (Or.inr ⟨(Option.some.inj hh).symm, rfl⟩)⟩
        · rw [getElem?_concat_iff] at he he'
          rcases he with he | ⟨hh, heq⟩
          · rcases he' with he' | ⟨_, heq'⟩
            · exact hs.single h h' e he he'
            · exact absurd (List.mem_of_getElem? (heq' ▸ he)) hfree
          · rcases he' with he' | ⟨hh', _⟩
            · exact absurd (List.mem_of_getElem? (heq ▸ he')) hfree
            · rw [hh, hh']

/-- One operation keeps the locks together with their handles. -/
theorem handlesKept_step (hs : HandlesKept s) (op : LockOp) :
    HandlesKept (lockStep fs strerror s op).1 := by
  cases op with
  | lockDir p path fault => exact handlesKept_lockDir fs strerror hs p path fault
  | unlockDir l fault => exact handlesKept_unlockDir hs l
  | changeDir p path =>
      unfold lockStep changeDir
      simp only
      split
      · exact hs
      · exact ⟨hs.accurate, hs.live, hs.single⟩
  | kill p => exact handlesKept_kill hs p

theorem locksKept_of_handlesKept (hs : HandlesKept s) : LocksKept fs strerror s := by
  refine ⟨hs.accurate, fun p path d hd => ?_⟩
  unfold lockDir
  simp only [hd]
  by_cases hmem : some d ∈ s.opened
  · rw [if_pos hmem]
    refine iff_of_false LockResult.noConfusion fun hfree => ?_
    rcases (hs.accurate.marked_iff d).mp hmem with ⟨l, hl⟩
    exact hfree l hl
  · rw [if_neg hmem]
    exact iff_of_true rfl fun l hl => hmem ((hs.accurate.marked_iff d).mpr ⟨l, hl⟩)

end Windows

/-- On Windows, the locks of any number of processes exclude each other in every
    state of every run, and a directory nobody holds can be locked. -/
theorem windowsLocks_run {ι : Type} [DecidableEq ι] (fs : LockFileSystem ι)
    (strerror : Int → List Char) (cwd : Nat → ι) (ops : List LockOp) :
    Runs.Always (fun s op => (Windows.lockStep fs strerror s op).1)
      (Windows.LocksKept fs strerror) { cwd := cwd, locks := [], opened := [] } ops := by
  intro pre post _
  refine Windows.locksKept_of_handlesKept fs strerror (Runs.run_preserves
    (fun s op => (Windows.lockStep fs strerror s op).1) (I := Windows.HandlesKept)
    (fun s op hs => Windows.handlesKept_step fs strerror hs op) _ pre ⟨⟨fun d => ?_, ?_⟩, ?_, ?_⟩)
  · refine iff_of_false List.not_mem_nil ?_
    rintro ⟨l, hl⟩
    exact Option.some_ne_none d hl.symm
  · exact fun l l' d hl => absurd hl.symm (Option.some_ne_none d)
  · exact fun l k h hk => absurd hk.symm (Option.some_ne_none k)
  · exact fun h h' d hh => absurd hh.symm (Option.some_ne_none _)

end QemuTestdrive
