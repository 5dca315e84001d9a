import QemuTestdrive.Lib.Handles

/-!
# Directory Iterators

`lfs.dir` of `Lualfs.cpp`, which the setup scripts are given, as it is compiled
for POSIX and for Windows. The two differ in when the directory is opened:
`opendir` is called by the factory, and raises there; `_findfirst` is called by
the first `next`, which returns nil and a message.

What the operating system has in its directories is part of the state, and can
change at any time. A stream delivers the entries there were when it was opened, as
long as its directory stays as it is. When the directory changes, what a stream on it
goes on with is left open by the systems, so it is an input of the change.

Streams are numbered as they are opened, and so are directories, to which any number
of paths may lead. What is done with the streams is recorded: opening one acquires
it, reading it is a use, and closing it releases it.

A Lua string is a list of characters that stand for its bytes. The functions of C
see it up to its first NUL.

## Main definitions

* `Listing`: What opening a directory finds.
* `DirState`: The iterators, the streams and the directories.
* `PosixDir`, `WindowsDir`: `dir_data`.
* `DirResult`: What a call gives back to the script.
* `Posix.dirIterFactory`, `Posix.dirIter`, `Posix.dirClose`: The functions on POSIX.
* `Windows.dirIterFactory`, `Windows.dirIter`, `Windows.dirClose`: On Windows.
* `DirOp`: A call, or a change of a directory.
* `Posix.dirStep`, `Windows.dirStep`: The effect of either.
-/

namespace QemuTestdrive

/-- What opening a directory finds: which one it is, and its entries in the form `ε`
    in which the first call delivers them. -/
structure Listing (ε : Type) where
  dir : Nat
  entries : ε

/-- The iterators of a process, by their userdata, and what the operating system
    has for them. `fs` is what opening a path leads to, a directory or an error
    number, `streams` what the streams have left, and `dirs` the directories they
    are on. -/
structure DirState (δ ε : Type) where
  fs : List Char → Except Int (Listing ε)
  iters : List δ
  streams : Nat → List (List Char)
  dirs : Nat → Nat
  handles : Nat
  calls : List (Handles.Act Nat)

/-- What a call gives back. `nothing` is a call without results, and `crashed` one
    that uses a stream or an iterator that is not there. -/
inductive DirResult where
  | iterator (i : Nat)
  | name (s : List Char)
  | nothing
  | failed (message : List Char)
  | raised (message : List Char)
  | argError (arg : Nat) (message : List Char)
  | crashed
  deriving DecidableEq

/-- A call on an iterator, or a change of the directory `dir`. A number that no
    iterator has stands for a variable that is nil. After a change, opening a path
    leads to what `fs` says, and the stream `h` on that directory delivers `rest h`. -/
inductive DirOp (ε : Type) where
  | dir (path : List Char)
  | next (i : Nat)
  | close (i : Nat)
  | change (dir : Nat) (fs : List Char → Except Int (Listing ε)) (rest : Nat → List (List Char))

/-- What C sees of a string. -/
def cString (s : List Char) : List Char :=
  s.takeWhile (· ≠ '\x00')

/-- The error of `luaL_checkudata` about a nil. -/
def notDirectory : DirResult :=
  .argError 1 "directory metatable expected, got nil".toList

/-- `"closed directory"` of `luaL_argcheck`. -/
def closedDirectory : DirResult :=
  .argError 1 "closed directory".toList

namespace DirState

variable {δ ε : Type}

/-- An empty process, over the directories `fs`. -/
def start (fs : List Char → Except Int (Listing ε)) : DirState δ ε :=
  { fs := fs, iters := [], streams := fun _ => [], dirs := fun _ => 0, handles := 0, calls := [] }

/-- A new iterator. -/
def push (d : δ) (s : DirState δ ε) : DirState δ ε :=
  { s with iters := s.iters ++ [d] }

/-- Storing the data of an iterator. -/
def setIter (i : Nat) (d : δ) (s : DirState δ ε) : DirState δ ε :=
  { s with iters := s.iters.set i d }

/-- A new stream on the directory `dir`, with `names` to deliver. -/
def openStream (dir : Nat) (names : List (List Char)) (s : DirState δ ε) : DirState δ ε :=
  { s with
    streams := fun h => if h = s.handles then names else s.streams h
    dirs := fun h => if h = s.handles then dir else s.dirs h
    handles := s.handles + 1, calls := s.calls ++ [.acquire s.handles] }

/-- The next entry of a stream, if there is one. -/
def readStream (h : Nat) (s : DirState δ ε) : DirState δ ε × Option (List Char) :=
  ({ s with
      streams := fun g => if g = h then (s.streams h).tail else s.streams g
      calls := s.calls ++ [.use h] }, (s.streams h).head?)

/-- The end of a stream. -/
def closeStream (h : Nat) (s : DirState δ ε) : DirState δ ε :=
  { s with calls := s.calls ++ [.release h] }

/-- A change of the directory `dir`. The streams on other directories go on as they
    would have. -/
def change (dir : Nat) (fs : List Char → Except Int (Listing ε)) (rest : Nat → List (List Char))
    (s : DirState δ ε) : DirState δ ε :=
  { s with fs := fs, streams := fun h => if s.dirs h = dir then rest h else s.streams h }

end DirState

section Platforms

variable (strerror : Int → List Char)

/-- `dir_data` on POSIX. `dir` is null when the directory could not be opened. -/
structure PosixDir where
  closed : Bool
  dir : Option Nat
  deriving DecidableEq

namespace Posix

/-- The state on POSIX. `opendir` succeeds on an empty directory too. -/
abbrev State : Type :=
  DirState PosixDir (List (List Char))

/-- `dir_iter_factory`. -/
def dirIterFactory (path : List Char) (s : State) : State × DirResult :=
  match s.fs (cString path) with
  | .ok l =>
      ((s.push { closed := false, dir := some s.handles }).openStream l.dir l.entries,
        .iterator s.iters.length)
  | .error errno =>
      -- The userdata is there, but the script never gets it.
      (s.push { closed := false, dir := none },
        .raised ("cannot open ".toList ++ cString path ++ ": ".toList ++ strerror errno))

/-- `dir_iter`. -/
def dirIter (i : Nat) (s : State) : State × DirResult :=
  match s.iters[i]? with
  | none => (s, notDirectory)
  | some d =>
      if d.closed then (s, closedDirectory)
      else
        match d.dir with
        | none => (s, .crashed)
        | some h =>
            match s.readStream h with
            | (t, some name) => (t, .name name)
            | (t, none) => ((t.closeStream h).setIter i { d with closed := true }, .nothing)

/-- `dir_close`, which does not look whether its argument is an iterator. -/
def dirClose (i : Nat) (s : State) : State × DirResult :=
  match s.iters[i]? with
  | none => (s, .crashed)
  | some d =>
      let t :=
        match d.closed, d.dir with
        | false, some h => s.closeStream h
        | _, _ => s
      (t.setIter i { d with closed := true }, .nothing)

/-- The effect of an operation, and what it gives back. -/
def dirStep (s : State) : DirOp (List (List Char)) → State × DirResult
  | .dir path => dirIterFactory strerror path s
  | .next i => dirIter i s
  | .close i => dirClose i s
  | .change dir fs rest => (s.change dir fs rest, .nothing)

end Posix

/-- `hFile`: `0L` before the first call, `-1L` after a `_findfirst` that has
    failed, and the handle of a search otherwise. -/
inductive FindHandle where
  | zero
  | invalid
  | handle (h : Nat)
  deriving DecidableEq

/-- `dir_data` on Windows. `pattern` is absent as long as it has not been
    written. -/
structure WindowsDir where
  closed : Bool
  hFile : FindHandle
  pattern : Option (List Char)
  deriving DecidableEq

namespace Windows

/-- `MAX_PATH`. -/
def maxPath : Nat := 260

/-- The state on Windows. `_findfirst` opens a search with its first entry. -/
abbrev State : Type :=
  DirState WindowsDir (List Char × List (List Char))

/-- `dir_iter_factory`. -/
def dirIterFactory (path : List Char) (s : State) : State × DirResult :=
  if maxPath - 2 < (cString path).length then
    (s.push { closed := false, hFile := .zero, pattern := none },
      .raised ("path too long: ".toList ++ cString path))
  else
    (s.push { closed := false, hFile := .zero, pattern := some (cString path ++ "/*".toList) },
      .iterator s.iters.length)

/-- `dir_iter`. -/
def dirIter (i : Nat) (s : State) : State × DirResult :=
  match s.iters[i]? with
  | none => (s, notDirectory)
  | some d =>
      if d.closed then (s, closedDirectory)
      else
        match d.hFile, d.pattern with
        | .zero, none => (s, .crashed)
        | .zero, some pattern =>
            match s.fs pattern with
            | .error errno =>
                (s.setIter i { d with hFile := .invalid, closed := true },
                  .failed (strerror errno))
            | .ok l =>
                ((s.openStream l.dir l.entries.2).setIter i { d with hFile := .handle s.handles },
                  .name l.entries.1)
        | .invalid, _ => (s, .crashed)
        | .handle h, _ =>
            match s.readStream h with
            | (t, some name) => (t, .name name)
            | (t, none) => ((t.closeStream h).setIter i { d with closed := true }, .nothing)

/-- `dir_close`. -/
def dirClose (i : Nat) (s : State) : State × DirResult :=
  match s.iters[i]? with
  | none => (s, .crashed)
  | some d =>
      let t :=
        match d.closed, d.hFile with
        | false, .handle h => s.closeStream h
        | _, _ => s
      (t.setIter i { d with closed := true }, .nothing)

/-- The effect of an operation, and what it gives back. -/
def dirStep (s : State) : DirOp (List Char × List (List Char)) → State × DirResult
  | .dir path => dirIterFactory path s
  | .next i => dirIter strerror i s
  | .close i => dirClose i s
  | .change dir fs rest => (s.change dir fs rest, .nothing)

end Windows

end Platforms

end QemuTestdrive
