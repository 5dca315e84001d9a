import QemuTestdrive.Core.LockDir
import QemuTestdrive.Core.Paths

/-!
# File Attributes

`lfs.attributes` and `lfs.symlinkattributes` of `Lualfs.cpp`. Either gives one
attribute by its name, or all of them in a table, which may be one the script has
made. What is known about a file is looked up with `stat`, or with `lstat` for a
link; Windows has no `lstat`, and the library makes one from the attributes of the
file. A link has a target besides.

The integers are the `lua_Integer` they are handed out as. A table is one without a
metatable, since `link_info` sets the target with `lua_setfield`, which would call a
`__newindex`. It is seen by its string keys; the library writes no others.

## Main definitions

* `Stat`: `STAT_STRUCT`.
* `Posix.mode2string`, `Windows.mode2string`: The kind of a file.
* `Posix.perm2string`, `Windows.perm2string`: Its permissions.
* `Posix.members`, `Windows.members`: The attributes by name.
* `fileInfo`: `_file_info_`.
* `Windows.lstat`: `lfs_win32_lstat`.
* `Posix.linkInfo`, `Windows.linkInfo`: `link_info`.
-/

namespace QemuTestdrive

/-- A value of a script. `other` is one that the library does not make. -/
inductive LuaItem where
  | integer (i : Int64)
  | text (s : List Char)
  | other (n : Nat)
  deriving DecidableEq

/-- A table without a metatable, by its string keys. -/
abbrev LuaTable : Type :=
  List Char → Option LuaItem

/-- `STAT_STRUCT`. -/
structure Stat where
  stMode : UInt32
  stDev : Int64
  stIno : Int64
  stNlink : Int64
  stUid : Int64
  stGid : Int64
  stRdev : Int64
  stAtime : Int64
  stMtime : Int64
  stCtime : Int64
  stSize : Int64
  stBlocks : Int64
  stBlksize : Int64

/-- The second argument: a text or a number, a table, or anything else. -/
inductive InfoArg where
  | name (s : List Char)
  | table (t : LuaTable)
  | other

/-- What a call gives back. -/
inductive InfoResult where
  | value (v : LuaItem)
  | table (t : LuaTable)
  | failed (message : List Char) (errno : Int)
  | raised (message : List Char)

/-- A character of `perms`: `c` when the bit is set. -/
def permChar (mode bit : UInt32) (c : Char) : Char :=
  if mode &&& bit ≠ 0 then c else '-'

/-- The attributes that both systems have. -/
def commonMembers (mode2string perm2string : UInt32 → List Char) :
    List (List Char × (Stat → LuaItem)) :=
  [("mode".toList, fun info => .text (mode2string info.stMode)),
    ("dev".toList, fun info => .integer info.stDev),
    ("ino".toList, fun info => .integer info.stIno),
    ("nlink".toList, fun info => .integer info.stNlink),
    ("uid".toList, fun info => .integer info.stUid),
    ("gid".toList, fun info => .integer info.stGid),
    ("rdev".toList, fun info => .integer info.stRdev),
    ("access".toList, fun info => .integer info.stAtime),
    ("modification".toList, fun info => .integer info.stMtime),
    ("change".toList, fun info => .integer info.stCtime),
    ("size".toList, fun info => .integer info.stSize),
    ("permissions".toList, fun info => .text (perm2string info.stMode))]

/-- All members are stored in a table, one after the other. -/
def storeMembers (members : List (List Char × (Stat → LuaItem))) (info : Stat) (t : LuaTable) :
    LuaTable :=
  members.foldl (fun t m => Function.update t m.1 (some (m.2 info))) t

/-- `_file_info_`, with the function `st` that looks a file up. -/
def fileInfo (members : List (List Char × (Stat → LuaItem))) (strerror : Int → List Char)
    (st : List Char → Except Int Stat) (path : List Char) (arg : InfoArg) : InfoResult :=
  match st (cString path) with
  | .error errno =>
      .failed ("cannot obtain information from file '".toList ++ cString path ++ "': ".toList ++
        strerror errno) errno
  | .ok info =>
      match arg with
      | .name s =>
          match members.find? fun m => m.1 = cString s with
          | some m => .value (m.2 info)
          | none => .raised ("invalid attribute name '".toList ++ cString s ++ "'".toList)
      | .table t => .table (storeMembers members info t)
      | .other => .table (storeMembers members info fun _ => none)

/-- `pusherror` of `link_info`. -/
def linkError (strerror : Int → List Char) (errno : Int) : InfoResult :=
  .failed ("could not obtain link target: ".toList ++ strerror errno) errno

/-- The argument asks for the target. -/
def InfoArg.isTarget : InfoArg → Bool
  | .name s => cString s == "target".toList
  | _ => false

namespace Posix

/-- `mode2string`. The kind of a file is in the bits of `S_IFMT`. -/
def mode2string (mode : UInt32) : List Char :=
  if mode &&& 0xF000 = 0x8000 then "file".toList
  else if mode &&& 0xF000 = 0x4000 then "directory".toList
  else if mode &&& 0xF000 = 0xA000 then "link".toList
  else if mode &&& 0xF000 = 0xC000 then "socket".toList
  else if mode &&& 0xF000 = 0x1000 then "named pipe".toList
  else if mode &&& 0xF000 = 0x2000 then "char device".toList
  else if mode &&& 0xF000 = 0x6000 then "block device".toList
  else "other".toList

/-- `perm2string`. -/
def perm2string (mode : UInt32) : List Char :=
  [permChar mode 0x100 'r', permChar mode 0x80 'w', permChar mode 0x40 'x',
    permChar mode 0x20 'r', permChar mode 0x10 'w', permChar mode 0x8 'x',
    permChar mode 0x4 'r', permChar mode 0x2 'w', permChar mode 0x1 'x']

/-- `members`. -/
def members : List (List Char × (Stat → LuaItem)) :=
  commonMembers mode2string perm2string ++
    [("blocks".toList, fun info => .integer info.stBlocks),
      ("blksize".toList, fun info => .integer info.stBlksize)]

/-- `link_info`. -/
def linkInfo (strerror : Int → List Char) (lstat : List Char → Except Int Stat)
    (calls : LinkCalls) (path : List Char) (arg : InfoArg) : Option InfoResult :=
  if arg.isTarget then
    (pushLinkTarget calls 24).map fun r =>
      match r.1 with
      | some target => .value (.text target)
      | none => linkError strerror calls.errno
  else
    match fileInfo members strerror lstat path arg with
    | .table t =>
        (pushLinkTarget calls 24).map fun r =>
          match r.1 with
          | some target => .table (Function.update t "target".toList (some (.text target)))
          | none => .table t
    | r => some r

end Posix

namespace Windows

/-- `mode2string`. The kind of a file is one bit. -/
def mode2string (mode : UInt32) : List Char :=
  if mode &&& 0x8000 ≠ 0 then "file".toList
  else if mode &&& 0x4000 ≠ 0 then "directory".toList
  else if mode &&& 0x400 ≠ 0 then "link".toList
  else if mode &&& 0x2000 ≠ 0 then "char device".toList
  else "other".toList

/-- `perm2string`, from `_S_IREAD`, `_S_IWRITE` and `_S_IEXEC`. -/
def perm2string (mode : UInt32) : List Char :=
  [permChar mode 0x100 'r', permChar mode 0x80 'w', permChar mode 0x40 'x',
    permChar mode 0x100 'r', permChar mode 0x80 'w', permChar mode 0x40 'x',
    permChar mode 0x100 'r', permChar mode 0x80 'w', permChar mode 0x40 'x']

/-- `members`. -/
def members : List (List Char × (Stat → LuaItem)) :=
  commonMembers mode2string perm2string

/-- `FILETIME`. -/
structure FileTime where
  dwLowDateTime : UInt32
  dwHighDateTime : UInt32

/-- `windowsToUnixTime`, from ticks of 100 nanoseconds since 1601. -/
def windowsToUnixTime (ft : FileTime) : Int64 :=
  let quadPart := ft.dwHighDateTime.toUInt64 * 0x100000000 + ft.dwLowDateTime.toUInt64
  (quadPart / 10000000 - 11644473600).toInt64

/-- `WIN32_FILE_ATTRIBUTE_DATA`. -/
structure FileAttributeData where
  reparsePoint : Bool
  ftCreationTime : FileTime
  ftLastAccessTime : FileTime
  ftLastWriteTime : FileTime

/-- `lfs_win32_lstat`. A failure of `GetFileAttributesEx` does not set `errno`. -/
def lstat (getFileAttributes : List Char → Option FileAttributeData)
    (stat : List Char → Except Int Stat) (errno : Int) (path : List Char) : Except Int Stat :=
  match getFileAttributes path with
  | none => .error errno
  | some data =>
      if data.reparsePoint then
        .ok { stMode := 0x400, stDev := 0, stIno := 0, stNlink := 0, stUid := 0, stGid := 0
              stRdev := 0, stAtime := windowsToUnixTime data.ftLastAccessTime
              stMtime := windowsToUnixTime data.ftLastWriteTime
              stCtime := windowsToUnixTime data.ftCreationTime, stSize := 0, stBlocks := 0
              stBlksize := 0 }
      else stat path

/-- `link_info`. The two values of `lfs_win32_pusherror` count as a success: by name,
    the message on top of the stack is returned, and in the other case the message
    would be set in the `nil` below it. -/
def linkInfo (strerror : Int → List Char) (lstat : List Char → Except Int Stat)
    (calls : FinalPathCalls) (path : List Char) (arg : InfoArg) : Option InfoResult :=
  if arg.isTarget then
    (pushLinkTarget calls 24).map fun r =>
      match r.1 with
      | .opened (some target) => .value (.text target)
      | .opened none => linkError strerror calls.errno
      | .refused en => .value (.text (win32Error strerror en))
  else
    match fileInfo members strerror lstat path arg with
    | .table t =>
        (pushLinkTarget calls 24).map fun r =>
          match r.1 with
          | .opened (some target) =>
              .table (Function.update t "target".toList (some (.text target)))
          | .opened none => .table t
          | .refused _ => .raised "attempt to index a nil value".toList
    | r => some r

end Windows

end QemuTestdrive
