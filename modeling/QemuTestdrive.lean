import QemuTestdrive.Lib.Runs
import QemuTestdrive.Lib.BitField
import QemuTestdrive.Lib.BitMask
import QemuTestdrive.Lib.Positional
import QemuTestdrive.Lib.Flags
import QemuTestdrive.Lib.Grouping
import QemuTestdrive.Lib.Splice
import QemuTestdrive.Lib.Slots
import QemuTestdrive.Lib.ByteMemory
import QemuTestdrive.Lib.Custody
import QemuTestdrive.Lib.Handles
import QemuTestdrive.Lib.Cursors
import QemuTestdrive.Lib.Marks
import QemuTestdrive.Lib.Growing
import QemuTestdrive.Core.Common
import QemuTestdrive.Core.LuaValue
import QemuTestdrive.Core.Configuration
import QemuTestdrive.Core.State
import QemuTestdrive.Core.System
import QemuTestdrive.Core.Script
import QemuTestdrive.Core.Access
import QemuTestdrive.Core.Screen
import QemuTestdrive.Core.Device
import QemuTestdrive.Core.Emulator
import QemuTestdrive.Core.Life
import QemuTestdrive.Core.RunScript
import QemuTestdrive.Core.Log
import QemuTestdrive.Core.LuaString
import QemuTestdrive.Core.Params
import QemuTestdrive.Core.Directory
import QemuTestdrive.Core.LockDir
import QemuTestdrive.Core.Paths
import QemuTestdrive.Core.Attributes
import QemuTestdrive.Theory.SizeCorrection
import QemuTestdrive.Theory.Numerals
import QemuTestdrive.Theory.HexString
import QemuTestdrive.Theory.ReadBack
import QemuTestdrive.Theory.ByteString
import QemuTestdrive.Theory.Effects
import QemuTestdrive.Theory.Events
import QemuTestdrive.Theory.BarSlots
import QemuTestdrive.Theory.InterruptConfig
import QemuTestdrive.Theory.Registration
import QemuTestdrive.Theory.Window
import QemuTestdrive.Theory.Alignment
import QemuTestdrive.Theory.Display
import QemuTestdrive.Theory.Refresh
import QemuTestdrive.Theory.Spellings
import QemuTestdrive.Theory.Identity
import QemuTestdrive.Theory.FlatBus
import QemuTestdrive.Theory.Pointers
import QemuTestdrive.Theory.Modules
import QemuTestdrive.Theory.NullSystem
import QemuTestdrive.Theory.ScriptReport
import QemuTestdrive.Theory.Mechanism
import QemuTestdrive.Theory.Notifiers
import QemuTestdrive.Theory.Lifetimes
import QemuTestdrive.Theory.SystemBooks
import QemuTestdrive.Theory.SystemCalls
import QemuTestdrive.Theory.Neighbours
import QemuTestdrive.Theory.Guests
import QemuTestdrive.Theory.Screen
import QemuTestdrive.Theory.Delivery
import QemuTestdrive.Theory.Console
import QemuTestdrive.Theory.Verbatim
import QemuTestdrive.Theory.Cursor
import QemuTestdrive.Theory.Insertion
import QemuTestdrive.Theory.DirectoryStreams
import QemuTestdrive.Theory.Directory
import QemuTestdrive.Theory.Platforms
import QemuTestdrive.Theory.LockDir
import QemuTestdrive.Theory.Paths
import QemuTestdrive.Theory.Attributes
import QemuTestdrive.Theory.Permissions
import QemuTestdrive.Theory.Construction
