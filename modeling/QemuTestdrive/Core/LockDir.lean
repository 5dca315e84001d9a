import QemuTestdrive.Core.Directory

/-!
# Directory Locks

`lfs.lock_dir` of `Lualfs.cpp`, with the `free` method and the collection of its
locks, and `lfs.chdir`, for any number of processes on one file system.

A lock is the file `lockfile.lfs` in its directory. On POSIX it is a symbolic
link: `symlink` fails when it is there, and `unlink` removes it again, both by the
name the script gave, which may be relative to the working directory. On Windows
it is a file that is kept open without sharing and goes away with its handle.

What a name leads to is the file system's business. `parent` is the directory a
file's name leads into, from a working directory, or the error it leads to. A lock
remembers in `dir` where its file was made; the program does not have it. An error
that has nothing to do with other locks is an input of the call, and so is the
failure of `malloc`, which is reported in the same way.

## Main definitions

* `LockFileSystem`: What names lead to.
* `PosixLocks`, `WindowsLocks`: The processes, their locks and the lock files.
* `LockOp`: A call of a process, or its end.
* `Posix.lockStep`, `Windows.lockStep`: The effect of either.
-/

namespace QemuTestdrive

/-- What names lead to, from a working directory: the directory itself for `chdir`,
    and the one a file is in. -/
structure LockFileSystem (ι : Type) where
  directory : ι → List Char → Except Int ι
  parent : ι → List Char → Except Int ι

/-- What a call gives back. -/
inductive LockResult where
  | lock (l : Nat)
  | ok
  | nothing
  | failed (message : List Char)
  deriving DecidableEq

/-- A call of the process `p` or on the lock `l`, or the sudden end of a process.
    `fault` is an error the call meets by itself. -/
inductive LockOp where
  | lockDir (p : Nat) (path : List Char) (fault : Option Int)
  | unlockDir (l : Nat) (fault : Bool)
  | changeDir (p : Nat) (path : List Char)
  | kill (p : Nat)

/-- `lockfile`. -/
def lockfile : List Char :=
  "/lockfile.lfs".toList

section Platforms

variable {ι : Type} [DecidableEq ι] (fs : LockFileSystem ι) (strerror : Int → List Char)

/-- The message of `change_dir`. -/
def chdirFailed (path : List Char) (errno : Int) : List Char :=
  "Unable to change working directory to '".toList ++ cString path ++ "'\n".toList ++
    strerror errno ++ "\n".toList

/-- `lfs_Lock` on POSIX, in the process `owner`. -/
structure PosixLock (ι : Type) where
  owner : Nat
  ln : Option (List Char)
  dir : ι

/-- The processes by their working directories, the locks made so far, and the
    directories that have a lock file. -/
structure PosixLocks (ι : Type) where
  cwd : Nat → ι
  locks : List (PosixLock ι)
  files : List ι

namespace Posix

/-- `lfs_lock_dir`. -/
def lockDir (p : Nat) (path : List Char) (fault : Option Int) (s : PosixLocks ι) :
    PosixLocks ι × LockResult :=
  let ln := cString path ++ lockfile
  match fault with
  | some errno => (s, .failed (strerror errno))
  | none =>
      match fs.parent (s.cwd p) ln with
      | .error errno => (s, .failed (strerror errno))
      | .ok d =>
          -- `EEXIST`
          if d ∈ s.files then (s, .failed (strerror 17))
          else
            ({ s with
                files := d :: s.files, locks := s.locks ++ [{ owner := p, ln := some ln, dir := d }] },
              .lock s.locks.length)

/-- `lfs_unlock_dir`. The result of `unlink` is not looked at. -/
def unlockDir (l : Nat) (fault : Bool) (s : PosixLocks ι) : PosixLocks ι :=
  match s.locks[l]? with
  | none => s
  | some k =>
      match k.ln with
      | none => s
      | some ln =>
          let files :=
            match fault, fs.parent (s.cwd k.owner) ln with
            | false, .ok d => s.files.filter (· ≠ d)
            | _, _ => s.files
          { s with files := files, locks := s.locks.set l { k with ln := none } }

/-- `change_dir`. -/
def changeDir (p : Nat) (path : List Char) (s : PosixLocks ι) : PosixLocks ι × LockResult :=
  match fs.directory (s.cwd p) (cString path) with
  | .error errno => (s, .failed (chdirFailed strerror path errno))
  | .ok d => ({ s with cwd := fun q => if q = p then d else s.cwd q }, .ok)

/-- The end of a process that does not collect its locks. Its memory is gone, and
    the files stay. -/
def kill (p : Nat) (s : PosixLocks ι) : PosixLocks ι :=
  { s with locks := s.locks.map fun k => if k.owner = p then { k with ln := none } else k }

/-- The effect of an operation, and what it gives back. -/
def lockStep (s : PosixLocks ι) : LockOp → PosixLocks ι × LockResult
  | .lockDir p path fault => lockDir fs strerror p path fault s
  | .unlockDir l fault => (unlockDir fs l fault s, .nothing)
  | .changeDir p path => changeDir fs strerror p path s
  | .kill p => (kill p s, .nothing)

end Posix

/-- `lfs_Lock` on Windows. `fd` is absent for `INVALID_HANDLE_VALUE`. -/
structure WindowsLock where
  owner : Nat
  fd : Option Nat
  deriving DecidableEq

/-- The processes, the locks made so far, and for each handle the directory whose
    lock file it is open on. -/
structure WindowsLocks (ι : Type) where
  cwd : Nat → ι
  locks : List WindowsLock
  opened : List (Option ι)

namespace Windows

/-- The message of `lfs_win32_pusherror`. `ERROR_FILE_EXISTS` is 80 and
    `ERROR_SHARING_VIOLATION` is 32. -/
def win32Error (en : Int) : List Char :=
  if en = 80 ∨ en = 32 then "File exists".toList else strerror en

/-- `lfs_win32_pusherror`. -/
def pushError (en : Int) : LockResult :=
  .failed (win32Error strerror en)

/-- `lfs_lock_dir`. The failure of `malloc` is reported by `errno`, the others by
    `GetLastError`. -/
def lockDir (p : Nat) (path : List Char) (fault : Option Int) (s : WindowsLocks ι) :
    WindowsLocks ι × LockResult :=
  let ln := cString path ++ lockfile
  match fault with
  | some en => (s, pushError strerror en)
  | none =>
      match fs.parent (s.cwd p) ln with
      | .error en => (s, pushError strerror en)
      | .ok d =>
          -- The share mode is zero, so an open handle keeps others out.
          if some d ∈ s.opened then (s, pushError strerror 32)
          else
            ({ s with
                opened := s.opened ++ [some d]
                locks := s.locks ++ [{ owner := p, fd := some s.opened.length }] },
              .lock s.locks.length)

/-- `lfs_unlock_dir`. Closing the handle deletes the file. -/
def unlockDir (l : Nat) (s : WindowsLocks ι) : WindowsLocks ι :=
  match s.locks[l]? with
  | none => s
  | some k =>
      match k.fd with
      | none => s
      | some h =>
          { s with opened := s.opened.set h none, locks := s.locks.set l { k with fd := none } }

/-- `change_dir`. -/
def changeDir (p : Nat) (path : List Char) (s : WindowsLocks ι) : WindowsLocks ι × LockResult :=
  match fs.directory (s.cwd p) (cString path) with
  | .error errno => (s, .failed (chdirFailed strerror path errno))
  | .ok d => ({ s with cwd := fun q => if q = p then d else s.cwd q }, .ok)

/-- The end of a process, however it comes. The system closes its handles. -/
def kill (p : Nat) (s : WindowsLocks ι) : WindowsLocks ι :=
  (List.range s.locks.length).foldl (fun s l =>
    if (s.locks[l]?.map WindowsLock.owner) = some p then unlockDir l s else s) s

/-- The effect of an operation, and what it gives back. -/
def lockStep (s : WindowsLocks ι) : LockOp → WindowsLocks ι × LockResult
  | .lockDir p path fault => lockDir fs strerror p path fault s
  | .unlockDir l _ => (unlockDir l s, .nothing)
  | .changeDir p path => changeDir fs strerror p path s
  | .kill p => (kill p s, .nothing)

end Windows

end Platforms

end QemuTestdrive
