import QemuTestdrive.Core.Directory
import QemuTestdrive.Lib.Growing

/-!
# Paths of Unknown Length

`lfs.currentdir` of `Lualfs.cpp`, and the target of a symbolic link for
`lfs.symlinkattributes`. Neither call of the system says how long its result will
be, so both are made in a buffer that is doubled until the result fits. The size is
a `size_t` in `get_dir` and an `int` in `push_link_target`.

What the system answers is an input, round by round, since a directory may be moved
and a link replaced in between. The size of a buffer is in bytes, and so are the
lengths of the texts.

## Main definitions

* `getDir`: `get_dir`.
* `Posix.pushLinkTarget`, `Windows.pushLinkTarget`: `push_link_target`.
-/

namespace QemuTestdrive

open Growing

/-- A path, or `nil` with a message and an error number. -/
inductive PathResult where
  | path (s : List Char)
  | failed (message : List Char) (errno : Int)
  deriving DecidableEq

/-- What `realloc` and `getcwd` answer in each round: the error of a failure, and
    the working directory. -/
structure DirCalls where
  realloc : Nat → UInt64 → Option Int
  getcwd : Nat → Except Int (List Char)

section Strerror

variable (strerror : Int → List Char)

/-- `pusherror` with an `info`. -/
def pathError (info : List Char) (errno : Int) : PathResult :=
  .failed (info ++ ": ".toList ++ strerror errno) errno

/-- One turn of the loop of `get_dir`. `ERANGE` is 34, and says that the buffer is
    too small. -/
def getDirRound (calls : DirCalls) (k : Nat) (size : UInt64) : Round PathResult :=
  match calls.realloc k size with
  | some errno => .refused (pathError strerror "get_dir realloc() failed".toList errno)
  | none =>
      match calls.getcwd k with
      | .ok path => if path.length < size.toNat then .answer (.path path) else .again
      | .error errno =>
          if errno ≠ 34 then
            .answer (pathError strerror "get_dir getcwd() failed".toList errno)
          else .again

/-- `get_dir`, with a first buffer of `LFS_MAXPATHLEN` bytes. -/
def getDir (calls : DirCalls) (maxPathLen : UInt64) (fuel : Nat) :
    Option (PathResult × Buffer) :=
  (grow (getDirRound strerror calls) (· * 2) fuel 0 maxPathLen .empty).map fun r =>
    (r.1, r.2.free)

end Strerror

/-- The `size_t` an `int` is converted to. -/
def sizeT (size : Int32) : UInt64 :=
  size.toInt64.toUInt64

/-- What `realloc` and `readlink` answer in each round, and `errno` in the end. -/
structure LinkCalls where
  realloc : Nat → UInt64 → Bool
  readlink : Nat → Option (List Char)
  errno : Int

namespace Posix

/-- `LFS_MAXPATHLEN`, which is `MAXPATHLEN`. -/
def maxPathLen : UInt64 := 4096

/-- One turn of the loop of `push_link_target`. `readlink` fills as much of the
    buffer as it can. -/
def linkRound (calls : LinkCalls) (k : Nat) (size : Int32) : Round (Option (List Char)) :=
  if calls.realloc k (sizeT size) then
    match calls.readlink k with
    | none => .answer none
    | some target =>
        let text := target.take (sizeT size).toNat
        let tsize := Int32.ofNat text.length
        if tsize < 0 then .answer none
        else if tsize < size then .answer (some text)
        else .again
  else .refused none

/-- `push_link_target`: the target, if it is successful. -/
def pushLinkTarget (calls : LinkCalls) (fuel : Nat) : Option (Option (List Char) × Buffer) :=
  (grow (linkRound calls) (· * 2) fuel 0 256 .empty).map fun r => (r.1, r.2.free)

end Posix

/-- What `CreateFile` answers, the error of a failure, and `realloc` and
    `GetFinalPathNameByHandle` in each round. -/
structure FinalPathCalls where
  createFile : Option Int
  realloc : Nat → UInt64 → Bool
  finalPath : Nat → Option (List Char)
  errno : Int

namespace Windows

/-- `LFS_MAXPATHLEN`, which is `MAX_PATH`. -/
def maxPathLen : UInt64 := 260

/-- The path without a prefix `\\?\`. -/
def stripPrefix (path : List Char) : List Char :=
  if 4 < path.length ∧ path.take 4 = "\\\\?\\".toList then path.drop 4 else path

/-- What `GetFinalPathNameByHandle` leaves in a buffer of `size` characters, and
    returns: the length of the path, or that of the buffer it needs, or zero when it
    fails. -/
def finalPathName (path : Option (List Char)) (size : UInt32) : List Char × Nat :=
  match path with
  | none => ([], 0)
  | some path => if path.length < size.toNat then (path, path.length) else ([], path.length + 1)

/-- One turn of the loop of `push_link_target`. -/
def linkRound (calls : FinalPathCalls) (k : Nat) (size : Int32) : Round (Option (List Char)) :=
  if calls.realloc k (sizeT size) then
    let r := finalPathName (calls.finalPath k) size.toUInt32
    let tsize := Int32.ofNat r.2
    if tsize < 0 then .answer none
    else if tsize < size then .answer (some (stripPrefix r.1))
    else .again
  else .refused none

/-- What `push_link_target` returns, and leaves on the stack: the two values of
    `lfs_win32_pusherror`, or the target. -/
inductive LinkReturn where
  | opened (target : Option (List Char))
  | refused (en : Int)
  deriving DecidableEq

/-- `push_link_target`. -/
def pushLinkTarget (calls : FinalPathCalls) (fuel : Nat) : Option (LinkReturn × Buffer) :=
  match calls.createFile with
  | some en => some (.refused en, .empty)
  | none =>
      (grow (linkRound calls) (· * 2) fuel 0 256 .empty).map fun r => (.opened r.1, r.2.free)

end Windows

end QemuTestdrive
