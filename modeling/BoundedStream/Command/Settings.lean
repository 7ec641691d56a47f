import BoundedStream.Config
import BoundedStream.Numeral

/-!
# Settings of a configuration

The text that shows a valid configuration: one setting a line, with the permission bits
in octal, and with the setting that only its backend has.
-/

namespace BoundedStream

namespace Config

/-- The setting that only the backend of a configuration has. -/
def backendSetting (config : Config) : String :=
  match config.kind with
  | .sharedMemory => "Capacity: " ++ toString config.capacity ++ " bytes"
  | .namedPipe =>
    "Flags:    0x" ++ Numeral.print 16 config.flags.toUInt32.toNat

def settings (config : Config) : List String :=
  ["✓ Configuration is valid", "", "Transport Settings:",
   "  Kind:     " ++ config.kind.text, "  Path:     " ++ config.path,
   "  Mode:     " ++ Numeral.printPadded 8 4 config.mode, "  " ++ config.backendSetting]

end Config

end BoundedStream
