import Mathlib.Algebra.Group.Int.Defs
import Mathlib.Algebra.Group.Nat.Defs
import QemuTestdrive.Core.Common

/-!
# Script Values and Their Decoding

The values a setup script passes to the device, and `lua_int64::GET`, which
turns one into a 64-bit number.

The decoding goes through code that is not part of the repository: the Lua
binding converts numbers and truth values, and the framework's string class
looks names up. `Framework` holds those functions as parameters, so every
result is stated for any behaviour of theirs, and a result that depends on one
names what it assumes. `stoull` is the standard library's and is modelled by
its documented behaviour.

A C++ exception that leaves a function is the `error` of its result. The
script runs inside a protected call, so an exception ends the call that raised
it, and what the call had done to the program state before stays done.

## Main definitions

* `LuaRef`: A value of the script language.
* `Framework`: The binding and string functions outside the repository.
* `Framework.standard`: The documented behaviour of those functions.
* `stoull`: Parsing an unsigned number.
* `LuaInt64.GET`: Decoding a script value into a 64-bit number.
-/

namespace QemuTestdrive

/-- A Lua number: a 64-bit integer, or a float given by its bit pattern. -/
inductive LuaNumber where
  | integer (i : Int64)
  | float (bits : UInt64)
  deriving DecidableEq

/-- A Lua value, by the type tests the device code makes. `int64` is a userdata
    holding a `lua_int64`, `userdata` any other one. -/
inductive LuaRef where
  | nil
  | boolean (b : Bool)
  | number (n : LuaNumber)
  | string (s : String)
  | int64 (m : UInt64)
  | userdata
  | other
  deriving DecidableEq

/-- `LuaRef::isNil`. -/
def LuaRef.isNil : LuaRef → Bool
  | .nil => true
  | _ => false

/-- The exceptions that the modelled functions can raise. -/
inductive CxxException where
  | invalidArgument
  | outOfRange
  | badCast
  deriving DecidableEq

/-- Functions of the script binding and of the framework's string class.
    A conversion that fails is `none`; `RetrieveTag` returns the index of the
    matching tag, or a negative number. -/
structure Framework where
  retrieveTag : String → List String → Int
  toUint32 : LuaNumber → Option UInt32
  toUint64 : LuaRef → Option UInt64
  toBool : LuaRef → Bool
  tostring : LuaRef → String

/-- A framework that behaves as documented: exact tag lookup, conversions that
    fail when the number does not fit, and Lua's truth values. -/
def Framework.standard : Framework where
  retrieveTag s tags := (tags.findIdx? (· == s)).elim (-1) Int.ofNat
  toUint32
    | .integer i => if 0 ≤ i.toInt ∧ i.toInt < 2 ^ 32 then some i.toInt.toNat.toUInt32 else none
    | .float _ => none
  toUint64
    | .number (.integer i) => some i.toUInt64
    | _ => none
  toBool
    | .nil => false
    | .boolean b => b
    | _ => true
  tostring _ := ""

/-- The part of a string before its first NUL, as a `const char *` delivers it. -/
def cStr (s : String) : List Char :=
  s.toList.takeWhile (· ≠ '\x00')

/-- `isspace` in the C locale. -/
def isSpace (c : Char) : Bool :=
  c = ' ' || (9 ≤ c.toNat && c.toNat ≤ 13)

/-- The value of a digit of the given base. -/
def digitVal (base : Nat) (c : Char) : Option Nat :=
  let v :=
    if '0' ≤ c ∧ c ≤ '9' then c.toNat - '0'.toNat
    else if 'a' ≤ c ∧ c ≤ 'z' then c.toNat - 'a'.toNat + 10
    else if 'A' ≤ c ∧ c ≤ 'Z' then c.toNat - 'A'.toNat + 10
    else base
  if v < base then some v else none

/-- The number a list of digits denotes. -/
def digitsVal (base : Nat) (ds : List Char) : Nat :=
  ds.foldl (fun acc c => acc * base + (digitVal base c).getD 0) 0

/-- An optional sign, and whether it was a minus. -/
def splitSign : List Char → Bool × List Char
  | '-' :: cs => (true, cs)
  | '+' :: cs => (false, cs)
  | cs => (false, cs)

/-- The prefix of a hexadecimal number, dropped when a digit follows it. -/
def dropHexPrefix : List Char → List Char
  | '0' :: 'x' :: c :: cs => if (digitVal 16 c).isSome then c :: cs else '0' :: 'x' :: c :: cs
  | '0' :: 'X' :: c :: cs => if (digitVal 16 c).isSome then c :: cs else '0' :: 'X' :: c :: cs
  | cs => cs

/-- `std::stoull` with the given base: leading blanks, a sign, the longest run
    of digits. A minus sign negates modulo `2 ^ 64`. -/
def stoull (base : Nat) (s : List Char) : Except CxxException UInt64 :=
  let (neg, s) := splitSign (s.dropWhile isSpace)
  let s := if base = 16 then dropHexPrefix s else s
  let ds := s.takeWhile fun c => (digitVal base c).isSome
  if ds = [] then .error .invalidArgument
  else
    let v := digitsVal base ds
    if 2 ^ 64 ≤ v then .error .outOfRange
    else .ok (if neg then 0 - UInt64.ofNat v else UInt64.ofNat v)

/-- `lua_int64::GET`: the messages it logs and the number it returns. -/
def LuaInt64.GET (F : Framework) (v : LuaRef) :
    List (LogMode × String) × Except CxxException UInt64 :=
  match v with
  | .int64 m => ([], .ok m)
  | .userdata => ([(.error, "Invalid int64 : " ++ F.tostring v)], .ok 0)
  | .string s => ([], stoull 10 (cStr s))
  | .number n =>
      match F.toUint32 n with
      | some u => ([], .ok u.toUInt64)
      | none => ([], .error .badCast)
  | _ => ([(.error, "Nil int64? : " ++ F.tostring v)], .ok 0)

example : stoull 10 (cStr " 4096") = .ok 4096 := by decide

end QemuTestdrive
