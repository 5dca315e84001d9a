import Mathlib.Tactic.Common

/-!
# Logging and Formatting Helpers

The helpers of `testdrive_common.cpp` that the device code formats its
messages with. A message is modelled as the mode it is logged in and the text
that reaches `LOG`; the colour prefixes some texts begin with are still part
of the text.

`hexString` groups the digits of a hexadecimal number by inserting separators
into the text it is walking over, from the right. The loop index of the source
is an `int` that may go below zero; it is a `Nat` here, since every value at or
below two ends the loop alike.

## Main definitions

* `LogMode`: The severity of a message.
* `hexString`: A number in hexadecimal with its digits in groups of four.
* `byteString`: A size as counts of units.
* `boolString`: A truth value as text.
-/

namespace QemuTestdrive

/-- `LOG_MODE`. -/
inductive LogMode where
  | info
  | warning
  | error
  deriving DecidableEq

/-- `string::insert`. -/
def insertAt (i : Nat) (t s : List Char) : List Char :=
  s.take i ++ t ++ s.drop i

/-- The digits `%llX` prints. -/
def hexDigits (val : UInt64) : List Char :=
  (Nat.toDigits 16 val.toNat).map Char.toUpper

/-- The insertion loop of `HEX_STRING`, entered with the index `i`. -/
def hexGroup (i : Nat) (s : List Char) : List Char :=
  if 2 < i then hexGroup (i - 4) (insertAt i ['_'] s) else s
termination_by i

/-- `HEX_STRING`. -/
def hexString (val : UInt64) : String :=
  let s := ['0', 'x'] ++ hexDigits val
  String.ofList (hexGroup (s.length - 4) s)

/-- The text `%lld` prints for an unsigned argument. -/
def lld (val : UInt64) : List Char :=
  (toString val.toInt64.toInt).toList

/-- The running state of `BYTE_STRING`: what is left of the size, whether a
    component was printed, and the text so far. -/
structure SizeText where
  val : UInt64
  bShown : Bool
  sSize : List Char
  deriving DecidableEq

/-- One of the three unit blocks of `BYTE_STRING`. -/
def sizeUnit (unit : UInt64) (suffix : List Char) (t : SizeText) : SizeText :=
  if unit ≤ t.val then
    let bSize := t.val / unit
    { val := t.val - bSize * unit
      bShown := true
      sSize := t.sSize ++ (if t.bShown then [' '] else []) ++ lld bSize ++ suffix }
  else t

/-- `BYTE_STRING`. -/
def byteString (val : UInt64) : String :=
  let t := sizeUnit (1024 * 1024 * 1024) ['G', 'B'] { val := val, bShown := false, sSize := [] }
  let t := sizeUnit (1024 * 1024) ['M', 'B'] t
  let t := sizeUnit 1024 ['K', 'B'] t
  String.ofList <|
    if t.val = 0 then t.sSize
    else t.sSize ++ (if t.bShown then [' '] else []) ++ lld t.val ++ [' ', 'B', 'y', 't', 'e']

/-- `BOOL_STRING`. -/
def boolString (bBool : Bool) : String :=
  if bBool then "true" else "false"

example : (hexDigits 0x1F00).length = 4 := by decide

end QemuTestdrive
