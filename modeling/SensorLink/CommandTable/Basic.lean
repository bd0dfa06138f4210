import SensorLink.Error.Basic
import SensorLink.Packet.Report

/-!
# Command tables

What a module can be asked is data, not code: a table names its commands, and an entry says what
goes on the wire for one and what comes back. Everything that a table leaves out has been filled in
by the time it is a `CommandTable`.

The entries of a table are sorted by name, each name once.
-/

namespace SensorLink

open Json (nat)

/-- How a command is put on the wire. -/
inductive CommandKind where
  /-- One request to a module. -/
  | downlink
  /-- A firmware image, block by block. -/
  | sensorUpdate
  /-- A request to the router itself. -/
  | router
  deriving DecidableEq, Repr

/-- The name of a kind in a table. -/
def CommandKind.name : CommandKind → String
  | .downlink => "downlink"
  | .sensorUpdate => "sensor_dfu"
  | .router => "jig_info"

/-- The kind of a name. -/
def CommandKind.ofName? : String → Option CommandKind
  | "downlink" => some .downlink
  | "sensor_dfu" => some .sensorUpdate
  | "jig_info" => some .router
  | _ => none

/-- One command. -/
structure CommandEntry where
  command : UInt8
  sensor : UInt16
  timeout : Duration
  /-- Whether the module answers with an uplink. -/
  hasUplink : Bool
  /-- The sensor that an uplink in reply comes from. -/
  uplinkSensor : UInt16
  requiresData : Bool
  /-- The payload that is sent unless the caller brings one. -/
  data : Option Bytes
  /-- Whether the router's word on the request is waited for. -/
  expectsResponse : Bool
  order : UInt16
  kind : CommandKind
  description : Option String
  deriving DecidableEq, Repr

/-- The commands of one kind of module. -/
structure CommandTable where
  name : String
  sensor : UInt16
  description : Option String
  entries : List (String × CommandEntry)
  deriving DecidableEq, Repr

/-- A span of time as whole seconds and the nanoseconds that are left. -/
def Duration.report (d : Duration) : Json :=
  .object [("secs", nat (d.nanos / Duration.perSecond)),
    ("nanos", nat (d.nanos % Duration.perSecond))]

/-- An entry as a JSON value. -/
def CommandEntry.report (e : CommandEntry) : Json :=
  .object [("cmd", nat e.command.toNat), ("sensor_id", nat e.sensor.toNat),
    ("timeout", e.timeout.report), ("has_uplink", .bool e.hasUplink),
    ("uplink_sensor_id", nat e.uplinkSensor.toNat), ("requires_data", .bool e.requiresData),
    ("data", .ofOption .hex e.data), ("expects_response", .bool e.expectsResponse),
    ("order", nat e.order.toNat), ("kind", .string e.kind.name),
    ("description", .ofOption .string e.description)]

namespace CommandTable

/-- The table of a name that nothing is known about. -/
def empty (name : String) : CommandTable :=
  { name, sensor := 0, description := none, entries := [] }

/-- The entry of a command. -/
def command? (table : CommandTable) (command : String) : Option CommandEntry :=
  Json.member? command table.entries

/-- The names of the commands, sorted. -/
def commandNames (table : CommandTable) : List String := table.entries.map (·.1)

/-- A table as a JSON value. -/
def report (t : CommandTable) : Json :=
  .object [("name", .string t.name), ("sensor_id", nat t.sensor.toNat),
    ("description", .ofOption .string t.description),
    ("commands", .object (t.entries.map fun (name, entry) => (name, entry.report)))]

end CommandTable
end SensorLink
