import QemuTestdrive.Core.LuaValue
import QemuTestdrive.Lib.Splice

/-!
# The String Object of the Scripts

`lua_cstring` of `testdrive_script.cpp`, the class behind the `String` objects of a
script. It adds a cursor to the framework's `cstring`, the position at which
tokenising goes on, which is -1 when there is nothing left.

Most of its operations are those of the base class, some with the cursor set back
to zero first. What the base class makes of the text is not part of the repository,
and some of it depends on the environment or the date, so the text it leaves is part
of the call. The operations on a position are those of `std::string`. A position is
an `int` that is converted to a `size_t`: a negative one is past the end of any
text, and a negative size is more than any text has. Texts are lists of characters,
one for each byte.

## Main definitions

* `stdReplace`: The text operations of `std::string` on a position.
* `LuaCstring`: A string object.
* `through`: An operation of the base class.
* `erase`, `insert`, `replace`: The operations on a position.
* `tokenizeVariable`: `TokenizeVariable`.
* `StringOp`: A change of a string object.
* `stringStep`: The object after a change.
-/

namespace QemuTestdrive

/-- The index an `int` position is in a text of length `n`, if it is not past it. -/
def stdPos (iPos : Int32) (n : Nat) : Option Nat :=
  if 0 ≤ iPos.toInt ∧ iPos.toInt ≤ n then some iPos.toInt.toNat else none

/-- How many characters an `int` size takes of the `n` that are there. -/
def stdCount (iSize : Int32) (n : Nat) : Nat :=
  if iSize.toInt < 0 then n else min iSize.toInt.toNat n

/-- `string::replace`. -/
def stdReplace (iPos iSize : Int32) (s text : List Char) : Except CxxException (List Char) :=
  match stdPos iPos text.length with
  | none => .error .outOfRange
  | some i => .ok (Splice.splice i (stdCount iSize (text.length - i)) s text)

/-- `string::insert`. -/
def stdInsert (iPos : Int32) (s text : List Char) : Except CxxException (List Char) :=
  stdReplace iPos 0 s text

/-- `string::erase`. -/
def stdErase (iPos iSize : Int32) (text : List Char) : Except CxxException (List Char) :=
  stdReplace iPos iSize [] text

/-- `c_str() + iPos` as a string, if the pointer is not past the NUL of the text. -/
def cStrFrom (text : List Char) (iPos : Int32) : Option (List Char) :=
  (stdPos iPos text.length).map fun i => (text.drop i).takeWhile (· ≠ '\x00')

/-- `lua_cstring`. -/
structure LuaCstring where
  mStr : List Char
  iTokenizePos : Int32
  mVariable : List Char
  deriving DecidableEq

/-- What `TokenizeVariable` returns. `pastText` stands for a pointer past the text. -/
inductive TokenResult where
  | token (s : List Char)
  | raised (e : CxxException)
  | pastText
  deriving DecidableEq

namespace LuaCstring

/-- The constructors, which set the cursor to zero. -/
def new (text : List Char) : LuaCstring :=
  { mStr := text, iTokenizePos := 0, mVariable := [] }

/-- An operation of the base class that leaves the text `t`, after the cursor has been
    set back or not. -/
def through (bReset : Bool) (t : List Char) (x : LuaCstring) : LuaCstring :=
  { x with mStr := t, iTokenizePos := if bReset then 0 else x.iTokenizePos }

def set (t : List Char) (x : LuaCstring) : LuaCstring := x.through true t

def cutFront (t : List Char) (x : LuaCstring) : LuaCstring := x.through true t

def cutBack (t : List Char) (x : LuaCstring) : LuaCstring := x.through true t

def deleteFront (t : List Char) (x : LuaCstring) : LuaCstring := x.through true t

def deleteBack (t : List Char) (x : LuaCstring) : LuaCstring := x.through true t

def deleteBlock (t : List Char) (x : LuaCstring) : LuaCstring := x.through true t

/-- `Replace`, by a search. -/
def replaceAll (t : List Char) (x : LuaCstring) : LuaCstring := x.through true t

def replaceVariable (t : List Char) (x : LuaCstring) : LuaCstring := x.through true t

def trimLeft (t : List Char) (x : LuaCstring) : LuaCstring := x.through true t

def trimRight (t : List Char) (x : LuaCstring) : LuaCstring := x.through true t

def trim (t : List Char) (x : LuaCstring) : LuaCstring := x.through true t

def clear (x : LuaCstring) : LuaCstring := x.through true []

def makeUpper (t : List Char) (x : LuaCstring) : LuaCstring := x.through false t

def makeLower (t : List Char) (x : LuaCstring) : LuaCstring := x.through false t

def makeFullPath (t : List Char) (x : LuaCstring) : LuaCstring := x.through false t

def getEnvironment (t : List Char) (x : LuaCstring) : LuaCstring := x.through false t

def formatDate (t : List Char) (x : LuaCstring) : LuaCstring := x.through false t

def changeCharset (t : List Char) (x : LuaCstring) : LuaCstring := x.through false t

def changeCharsetToUTF8 (t : List Char) (x : LuaCstring) : LuaCstring := x.through false t

def changeCharsetToANSI (t : List Char) (x : LuaCstring) : LuaCstring := x.through false t

def append (t : List Char) (x : LuaCstring) : LuaCstring := x.through false t

/-- `ReadFile`, which clears the text and then has `TextFile::GetAll` fill it, if the
    file can be opened. -/
def readFile (contents : Option (List Char)) (x : LuaCstring) : LuaCstring :=
  match contents with
  | none => x.clear
  | some t => x.clear.through false t

/-- Storing the text an operation of `std::string` leaves. -/
def store (x : LuaCstring) : Except CxxException (List Char) →
    LuaCstring × Except CxxException Unit
  | .error e => (x, .error e)
  | .ok t => ({ x with mStr := t }, .ok ())

def erase (iPos iSize : Int32) (x : LuaCstring) : LuaCstring × Except CxxException Unit :=
  x.store (stdErase iPos iSize x.mStr)

def replace (iPos iSize : Int32) (s : String) (x : LuaCstring) :
    LuaCstring × Except CxxException Unit :=
  x.store (stdReplace iPos iSize (cStr s) x.mStr)

/-- `insert`, which moves the cursor before the text looks at the position. -/
def insert (iPos : Int32) (s : String) (x : LuaCstring) :
    LuaCstring × Except CxxException Unit :=
  let x :=
    if iPos < x.iTokenizePos then
      { x with iTokenizePos := x.iTokenizePos + Int32.ofNat (cStr s).length }
    else x
  x.store (stdInsert iPos (cStr s) x.mStr)

/-- `SetTokenizeLuaPos`. -/
def setTokenizeLuaPos (iPos : Int32) (x : LuaCstring) : LuaCstring :=
  { x with iTokenizePos := iPos }

/-- `TokenizeVariable`, where `FindVariableString` returns `found` and leaves
    `sVariable`. -/
def tokenizeVariable (found : Int32) (sVariable : List Char) (x : LuaCstring) :
    LuaCstring × TokenResult :=
  if 0 ≤ x.iTokenizePos then
    let y := { x with
      iTokenizePos := found, mVariable := if 0 ≤ found then sVariable else [] }
    match cStrFrom x.mStr x.iTokenizePos with
    | none => (y, .pastText)
    | some sTok =>
        if 0 ≤ found then
          match stdErase (found - x.iTokenizePos) (-1) sTok with
          | .error e => (y, .raised e)
          | .ok s => (y, .token s)
        else (y, .token sTok)
  else ({ x with mVariable := [] }, .token [])

end LuaCstring

/-- A change of a string object, with the text the base class leaves where it does
    the work. -/
inductive StringOp where
  | set (t : List Char)
  | cutFront (t : List Char)
  | cutBack (t : List Char)
  | deleteFront (t : List Char)
  | deleteBack (t : List Char)
  | deleteBlock (t : List Char)
  | replaceAll (t : List Char)
  | replaceVariable (t : List Char)
  | trimLeft (t : List Char)
  | trimRight (t : List Char)
  | trim (t : List Char)
  | clear
  | readFile (contents : Option (List Char))
  | makeUpper (t : List Char)
  | makeLower (t : List Char)
  | makeFullPath (t : List Char)
  | getEnvironment (t : List Char)
  | formatDate (t : List Char)
  | changeCharset (t : List Char)
  | changeCharsetToUTF8 (t : List Char)
  | changeCharsetToANSI (t : List Char)
  | append (t : List Char)
  | erase (iPos iSize : Int32)
  | replace (iPos iSize : Int32) (s : String)
  | insert (iPos : Int32) (s : String)
  | setTokenizeLuaPos (iPos : Int32)

/-- The object after a change. An exception leaves it as the change had left it. -/
def stringStep (x : LuaCstring) : StringOp → LuaCstring
  | .set t => x.set t
  | .cutFront t => x.cutFront t
  | .cutBack t => x.cutBack t
  | .deleteFront t => x.deleteFront t
  | .deleteBack t => x.deleteBack t
  | .deleteBlock t => x.deleteBlock t
  | .replaceAll t => x.replaceAll t
  | .replaceVariable t => x.replaceVariable t
  | .trimLeft t => x.trimLeft t
  | .trimRight t => x.trimRight t
  | .trim t => x.trim t
  | .clear => x.clear
  | .readFile contents => x.readFile contents
  | .makeUpper t => x.makeUpper t
  | .makeLower t => x.makeLower t
  | .makeFullPath t => x.makeFullPath t
  | .getEnvironment t => x.getEnvironment t
  | .formatDate t => x.formatDate t
  | .changeCharset t => x.changeCharset t
  | .changeCharsetToUTF8 t => x.changeCharsetToUTF8 t
  | .changeCharsetToANSI t => x.changeCharsetToANSI t
  | .append t => x.append t
  | .erase iPos iSize => (x.erase iPos iSize).1
  | .replace iPos iSize s => (x.replace iPos iSize s).1
  | .insert iPos s => (x.insert iPos s).1
  | .setTokenizeLuaPos iPos => x.setTokenizeLuaPos iPos

example : ((LuaCstring.new ['a', 'b']).insert 1 "xy").1.mStr = ['a', 'x', 'y', 'b'] := by decide

end QemuTestdrive
