import SensorLink.Error.Basic
import SensorLink.Packet.Basic

/-!
# What a module's payloads mean

A command table says how the commands of a module are sent and what comes back, and nothing about
what is inside the payloads. That is a handler's part: it decodes what a module sends up and it
knows how the settings of a module are read, changed and written back. A module without a handler is
one whose payloads are shown as they are.
-/

namespace SensorLink

/-- A module whose command does not take settings updates says so. -/
def settingsUnsupported (command : String) : Error :=
  .invalidParameter (.settingsUnsupported command)

/-- The interpretation of one kind of module. -/
structure ModuleHandler where
  name : String
  /-- What an uplink in reply to a command says; `none` for a command whose uplinks are not
  decoded. -/
  decode : (command : String) → UplinkNotification → Except Error (Option Json)
  /-- The command that reads the settings which a command writes. -/
  settingsSource : (command : String) → Option String := fun _ => none
  /-- The payload that writes the settings of an uplink with updates applied. -/
  mergeSettings : (command : String) → UplinkNotification → (updates : Json) → Except Error Bytes :=
    fun command _ _ => .error (settingsUnsupported command)

end SensorLink
