import SensorLink.CommandTable.Basic
import SensorLink.Illuminance.Handler

/-!
# The tables that the library brings

One for the illuminance sensor, and one for the router itself. The commands of a router table are
sent to the router, so no sensor number plays a part in them.
-/

namespace SensorLink

/-- A command that leaves as much as possible to the defaults. -/
def CommandEntry.plain (command : UInt8) (sensor : UInt16) (seconds : Nat) (description : String) :
    CommandEntry where
  command
  sensor
  timeout := .seconds seconds
  hasUplink := false
  uplinkSensor := sensor
  requiresData := false
  data := none
  expectsResponse := false
  order := fixedOrder
  kind := .downlink
  description := some description

/-- A router command that is answered. -/
def RouterCommand.entry (command : RouterCommand) : CommandEntry where
  command := command.code
  sensor := 0
  timeout := .seconds 10
  hasUplink := false
  uplinkSensor := 0
  requiresData := false
  data := none
  expectsResponse := true
  order := fixedOrder
  kind := .router
  description := none

/-- The commands of an illuminance sensor. -/
def Illuminance.table : CommandTable where
  name := "illuminance"
  sensor := Illuminance.sensorNumber
  description := some "BJ-MD-LUX-01 illuminance module (OPT3001)"
  entries := [
    ("device_restart",
      { CommandEntry.plain 0xFD 0 10 "Restart the module" with expectsResponse := true }),
    (Illuminance.getParameter,
      { CommandEntry.plain 0x0D 0 30 "Read the module parameter block" with
        hasUplink := true, requiresData := true, data := some [0x00] }),
    (Illuminance.instantUplink,
      { CommandEntry.plain 0x00 Illuminance.sensorNumber 90
          "Request an immediate sensor reading" with
        hasUplink := true }),
    ("sensor_dfu",
      { CommandEntry.plain 0x12 Illuminance.sensorNumber 30 "Update the sensor firmware" with
        requiresData := true, kind := .sensorUpdate }),
    (Illuminance.setParameter,
      { CommandEntry.plain 0x05 0 15 "Write the module parameter block" with
        requiresData := true, expectsResponse := true })]

/-- The commands of the router. -/
def RouterCommand.table : CommandTable where
  name := "router"
  sensor := 0
  description := some "Commands addressed to the BraveJIG router itself"
  entries := [
    ("get_device_id_all", RouterCommand.getAllDevices.entry),
    ("get_scan_mode", RouterCommand.getScanMode.entry),
    ("get_version", RouterCommand.getVersion.entry),
    ("keep_alive", RouterCommand.keepAlive.entry),
    ("remove_device_id_all", RouterCommand.removeAllDevices.entry),
    ("router_start", RouterCommand.start.entry),
    ("router_stop", RouterCommand.stop.entry),
    ("set_scan_mode_legacy", RouterCommand.setScanModeLegacy.entry),
    ("set_scan_mode_long_range", RouterCommand.setScanModeLongRange.entry)]

end SensorLink
