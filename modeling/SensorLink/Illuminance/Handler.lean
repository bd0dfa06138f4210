import SensorLink.Illuminance.Reading
import SensorLink.Illuminance.Settings
import SensorLink.Module.Handler

/-!
# The handler of illuminance sensors

Readings and parameter blocks are decoded, and parameters are written by reading them first.
-/

namespace SensorLink.Illuminance

/-- The command that asks for a reading at once. -/
def instantUplink : String := "instant_uplink"

/-- The command that reads the parameters. -/
def getParameter : String := "get_parameter"

/-- The command that writes the parameters. -/
def setParameter : String := "set_parameter"

/-- What the payload of an uplink in reply to a command says. -/
def decode (command : String) (payload : Bytes) : Except Error (Option Json) :=
  if command = instantUplink then (Reading.parse payload).map fun r => some r.report.normal
  else if command = getParameter then (Parameters.parse payload).map fun p => some p.report.normal
  else .ok none

/-- The payload that writes the parameters in `payload` with updates applied. -/
def mergeSettings (command : String) (payload : Bytes) (updates : Json) : Except Error Bytes :=
  if command = setParameter then do
    let current ← Parameters.parse payload
    let merged ← current.merged updates
    pure merged.setPayload
  else .error (settingsUnsupported command)

/-- The handler of illuminance sensors. -/
def handler : ModuleHandler where
  name := "illuminance"
  decode command uplink := decode command uplink.payload
  settingsSource command := if command = setParameter then some getParameter else none
  mergeSettings command uplink updates := mergeSettings command uplink.payload updates

end SensorLink.Illuminance
