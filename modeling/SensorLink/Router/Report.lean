import SensorLink.Packet.Report
import SensorLink.Router.Reply

/-!
# Router replies as JSON

A reply names its kind beside its fields, and a device table is a list of slots.
-/

namespace SensorLink

open Json (nat)

/-- A slot of the device table. -/
def DeviceSlot.members (slot : DeviceSlot) : List (String × Json) :=
  [("index", nat slot.index.toNat), ("device_id", .id64 slot.device)]

/-- A reply with the name of its kind. -/
def RouterReply.report : RouterReply → Json
  | .version major minor build =>
    .object [("kind", .string "version"), ("major", nat major.toNat), ("minor", nat minor.toNat),
      ("build", nat build.toNat)]
  | .scanMode mode => .object [("kind", .string "scan_mode"), ("mode", .string mode.tag)]
  | .status success => .object [("kind", .string "status"), ("success", .bool success)]
  | .device slot => .object (("kind", .string "device_id") :: slot.members)
  | .devices slots =>
    .object [("kind", .string "device_ids"),
      ("devices", .array (slots.map fun s => .object s.members))]

end SensorLink
