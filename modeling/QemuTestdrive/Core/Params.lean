import QemuTestdrive.Core.Configuration

/-!
# The PCI Identity

`testdrive_init` of `testdrive_params.cpp`, which fills in the identity of the
device from the configuration before any device is made. It reads six numbers, one
after the other, stores each in its field, and looks only at the first of them once
it is stored. A number that cannot be read is an exception, which ends the function
with the fields before it stored.

The configuration is read from the environment, which is a parameter.

## Main definitions

* `getConfiguration`: Reading an entry of the configuration.
* `PciParam`: The identity of the device.
* `InitState`: What `testdrive_init` works on.
* `assign`: One of its assignments.
* `testdriveInit`: `testdrive_init`.
-/

namespace QemuTestdrive

/-- `GetConfiguration`, where `environment` is what `cstring::GetEnvironment` finds
    for a name. -/
def getConfiguration (environment : String → Option String) (sName : String)
    (sSection : String := "TESTDRIVE_DEVICE") : String :=
  (environment (sName ++ "@" ++ sSection ++ "@qemu_testdrive.ini")).getD ""

/-- `vendor_id` and `device_id`. -/
structure PciIds where
  vendorId : UInt16
  deviceId : UInt16
  deriving DecidableEq

/-- The part of `testdrive_param.pci` that `testdrive_init` fills in. -/
structure PciParam where
  romFile : Option String
  main : PciIds
  sub : PciIds
  classId : UInt16
  revision : UInt8
  deriving DecidableEq

/-- The parameters, the static `rom_path` once it is initialised, and what is
    printed. -/
structure InitState where
  param : PciParam
  romPath : Option String
  printed : List String
  deriving DecidableEq

/-- The state before `testdrive_init` is called for the first time. -/
def InitState.start : InitState :=
  { param := { romFile := none, main := { vendorId := 0, deviceId := 0 }
               sub := { vendorId := 0, deviceId := 0 }, classId := 0, revision := 0 }
    romPath := none, printed := [] }

section Init

variable (environment : String → Option String)

/-- An assignment of `testdrive_init`, from the entry `sName`, and what comes after
    it. -/
def assign (sName : String) (uDefault : UInt64) (store : UInt64 → PciParam → PciParam)
    (x : InitState) (next : InitState → InitState × Except CxxException Bool) :
    InitState × Except CxxException Bool :=
  match getConfigurationValue (getConfiguration environment sName) uDefault with
  | .error e => (x, .error e)
  | .ok v => next { x with param := store v x.param }

/-- The end of `testdrive_init`: the static `rom_path`, initialised once, and the
    pointer to it. -/
def setRomFile (x : InitState) : InitState :=
  let romPath := x.romPath.getD (getConfiguration environment "ROM_FILE")
  { x with
    romPath := some romPath
    param := if romPath ≠ "" then { x.param with romFile := some romPath } else x.param }

/-- `testdrive_init`. -/
def testdriveInit (x : InitState) : InitState × Except CxxException Bool :=
  assign environment "MAIN_VENDOR_ID" 0x1234
    (fun v p => { p with main := { p.main with vendorId := v.toUInt16 } }) x fun x =>
  -- The vendor is tested after it has been cut to the width of its field.
  if x.param.main.vendorId = 0 then
    ({ x with printed := x.printed ++ ["*E: 'MAIN_VENDOR_ID' must be specific number.\n"] },
      .ok false)
  else
  assign environment "MAIN_DEVICE_ID" 0
    (fun v p => { p with main := { p.main with deviceId := v.toUInt16 } }) x fun x =>
  assign environment "SUB_VENDOR_ID" 0
    (fun v p => { p with sub := { p.sub with vendorId := v.toUInt16 } }) x fun x =>
  assign environment "SUB_DEVICE_ID" 0
    (fun v p => { p with sub := { p.sub with deviceId := v.toUInt16 } }) x fun x =>
  assign environment "CLASS_ID" 0 (fun v p => { p with classId := v.toUInt16 }) x fun x =>
  assign environment "REVISION" 0 (fun v p => { p with revision := v.toUInt8 }) x fun x =>
  (setRomFile environment x, .ok true)

end Init

end QemuTestdrive
