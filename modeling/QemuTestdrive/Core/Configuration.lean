import QemuTestdrive.Core.LuaValue

/-!
# Numbers in the Configuration

`GetConfigurationValue` of `testdrive_common.cpp`, which reads a number from the
configuration. Unlike `lua_int64::GET` it looks for a hexadecimal prefix, and
names the base it wants.

## Main definitions

* `getConfigurationValue`: Reading a number from the configuration.
-/

namespace QemuTestdrive

/-- `GetConfigurationValue`, where `sVal` is the text of the entry, which is empty
    when there is none. -/
def getConfigurationValue (sVal : String) (uDefault : UInt64) : Except CxxException UInt64 :=
  if sVal ≠ "" then
    if ['0', 'x'].isPrefixOf sVal.toList then stoull 16 (cStr sVal) else stoull 10 (cStr sVal)
  else .ok uDefault

example : getConfigurationValue "0x1AF4" 0 = .ok 0x1AF4 := by decide

end QemuTestdrive
