import QemuTestdrive.Core.LuaValue

/-!
# Logging

`LOG` of `testdrive_common.cpp`, and the functions that give it to the scripts.

The format may begin with a colour prefix: `*` or `@`, a `^` if the colour is to
stay, and a digit. The `@` also drops the mode and the newline that `LOG` puts
around the text. `LOG` sets its flags while it looks at the prefix, and skips the
prefix only once it has seen all of it.

What `LOG` sends to the console is a list of `Output`. A colour is given by its
index in the table of colours, which is looked up with no check of its own. What
`vsnprintf` makes of a format and the arguments of a call is a parameter. A
script's text is a format without arguments, for which a conversion has no
defined result; such a call is `undefined`.

## Main definitions

* `Output`: What `LOG` sends to the console.
* `LogState`: The counters, the suppression of messages and the console.
* `logColor`: The flags `LOG` finds out from its mode and its format.
* `logOutput`: What it prints.
* `LogState.LOG`: Logging a message.
* `vsnprintfNone`: Formatting without arguments.
* `scriptLog`: `LOGI`, `LOGW` and `LOGE` as the scripts know them.
* `LogOp`: A call of `LOG` or of `LOG_Suppress`.
-/

namespace QemuTestdrive

/-- `(int)id`. -/
def LogMode.toInt : LogMode → Int
  | .info => 0
  | .warning => 1
  | .error => 2

/-- `__sID`. -/
def LogMode.sID : LogMode → List Char
  | .info => ['*', 'I', ':', ' ']
  | .warning => ['*', 'W', ':', ' ']
  | .error => ['*', 'E', ':', ' ']

/-- What `LOG` sends to the console: a colour, by its index in `__sColor`, a text,
    and the sequence that resets the colour. `undefined` is a conversion of an
    argument that is not there. -/
inductive Output where
  | color (colorId : Int)
  | text (s : List Char)
  | reset
  | undefined
  deriving DecidableEq

/-- `__log_supress`, the two counters and what has been sent to the console. -/
structure LogState where
  logSupress : Bool
  gLogWarningCount : Nat
  gLogErrorCount : Nat
  console : List Output

/-- `sFormat[i]` of a string that ends with a NUL. -/
def charAt (s : List Char) (i : Nat) : Char :=
  s.getD i '\x00'

/-- The flags of `LOG`, and the format with what it has skipped taken off. -/
structure LogColor where
  colorId : Int
  bCustom : Bool
  bColor : Bool
  bPreserveColor : Bool
  sFormat : List Char
  deriving DecidableEq

/-- The part of `LOG` that looks at the mode and at the prefix of the format. -/
def logColor (id : LogMode) (sFormat : List Char) : LogColor :=
  let bColor : Bool := id ≠ .info
  if charAt sFormat 0 = '*' ∨ charAt sFormat 0 = '@' then
    let bCustom : Bool := charAt sFormat 0 = '@'
    let bPreserveColor : Bool := charAt sFormat 1 = '^'
    let newColorId : Int := (charAt sFormat (if bPreserveColor then 2 else 1)).toNat - '0'.toNat
    if 0 ≤ newColorId ∧ newColorId ≤ 6 then
      { colorId := newColorId, bCustom := bCustom, bColor := true, bPreserveColor := bPreserveColor
        sFormat := sFormat.drop (if bPreserveColor then 3 else 2) }
    else
      -- The colour is the mode's, but the flags of the prefix stay set.
      { colorId := id.toInt, bCustom := bCustom, bColor := bColor
        bPreserveColor := bPreserveColor, sFormat := sFormat }
  else
    { colorId := id.toInt, bCustom := false, bColor := bColor, bPreserveColor := false
      sFormat := sFormat }

/-- The text of a message, from what `vsnprintf` has left in `pBuff`. A custom
    message has neither mode nor newline. -/
def logText (id : LogMode) (bCustom : Bool) : Option (List Char) → Output
  | some pBuff => .text (if bCustom then pBuff else id.sID ++ pBuff ++ ['\n'])
  | none => .undefined

/-- What `LOG` prints of a format that is not null. -/
def logOutput (id : LogMode) (sFormat : List Char)
    (vsnprintf : List Char → Option (List Char)) : List Output :=
  let c := logColor id sFormat
  (if c.bColor then [.color c.colorId] else []) ++
    [logText id c.bCustom (vsnprintf c.sFormat)] ++
    (if c.bColor && !c.bPreserveColor then [.reset] else [])

namespace LogState

/-- The counting of warnings and errors. -/
def count (id : LogMode) (x : LogState) : LogState :=
  match id with
  | .info => x
  | .warning => { x with gLogWarningCount := x.gLogWarningCount + 1 }
  | .error => { x with gLogErrorCount := x.gLogErrorCount + 1 }

/-- `LOG`, where `vsnprintf` formats with the arguments of the call. -/
def LOG (id : LogMode) (sFormat : Option (List Char))
    (vsnprintf : List Char → Option (List Char)) (x : LogState) : LogState :=
  if x.logSupress then x
  else
    match sFormat with
    | none => x.count id
    | some sFormat =>
        { x.count id with console := x.console ++ logOutput id sFormat vsnprintf }

/-- `LOG_Suppress`. -/
def suppress (bSuppress : Bool) (x : LogState) : LogState :=
  { x with logSupress := bSuppress }

end LogState

/-- `vsnprintf` without arguments, which is defined as long as every conversion is
    `%%`. -/
def vsnprintfNone : List Char → Option (List Char)
  | [] => some []
  | '%' :: '%' :: s => (vsnprintfNone s).map ('%' :: ·)
  | c :: s => if c = '%' then none else (vsnprintfNone s).map (c :: ·)

section Script

-- What `cstring::ChangeCharsetToANSI` makes of a text.
variable (toANSI : List Char → List Char)

/-- A message of a script: its text, in the charset of the console, is the format of
    the message. -/
def scriptLog (id : LogMode) (sLog : String) (x : LogState) : LogState :=
  x.LOG id (some ((toANSI (cStr sLog)).takeWhile (· ≠ '\x00'))) vsnprintfNone

/-- `__LOGI`. -/
def scriptLOGI (sLog : String) (x : LogState) : LogState :=
  scriptLog toANSI .info sLog x

/-- `__LOGE`. -/
def scriptLOGE (sLog : String) (x : LogState) : LogState :=
  scriptLog toANSI .error sLog x

/-- `__LOGW`. -/
def scriptLOGW (sLog : String) (x : LogState) : LogState :=
  scriptLog toANSI .warning sLog x

end Script

/-- A call of `LOG`, with what its arguments are formatted to, or of
    `LOG_Suppress`. -/
inductive LogOp where
  | log (id : LogMode) (sFormat : Option (List Char)) (vsnprintf : List Char → List Char)
  | suppress (bSuppress : Bool)

/-- The state after a call. -/
def logStep (x : LogState) : LogOp → LogState
  | .log id sFormat vsnprintf => x.LOG id sFormat fun s => some (vsnprintf s)
  | .suppress bSuppress => x.suppress bSuppress

example : (logColor .info "*1done".toList).sFormat = "done".toList := by decide

end QemuTestdrive
