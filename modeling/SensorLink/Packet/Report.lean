import SensorLink.Json.Value
import SensorLink.Packet.Basic

/-!
# Packets as JSON

What the command line prints of a packet: the name of its kind, and its fields in the order in which
they are declared. Identifiers of 64 bits and payloads are hexadecimal text, because a JSON number
does not keep all 64 bits for every reader; the other fields are numbers.
-/

namespace SensorLink

open Json (nat)

/-- A byte string as a JSON value. -/
def Json.hex (bytes : Bytes) : Json := .string (Hex.encode bytes)

/-- An identifier as a JSON value. -/
def Json.id64 (id : UInt64) : Json := .string (Hex.id64 id)

/-- The fields of a downlink request. -/
def DownlinkRequest.report (p : DownlinkRequest) : Json :=
  .object [("protocol_version", nat p.version.toNat), ("unix_time", nat p.unixTime.toNat),
    ("device_id", .id64 p.device), ("sensor_id", nat p.sensor.toNat),
    ("cmd", nat p.command.toNat), ("order", nat p.order.toNat), ("payload", .hex p.payload)]

/-- The fields of a downlink response. -/
def DownlinkResponse.report (p : DownlinkResponse) : Json :=
  .object [("protocol_version", nat p.version.toNat), ("unix_time", nat p.unixTime.toNat),
    ("device_id", .id64 p.device), ("sensor_id", nat p.sensor.toNat),
    ("order", nat p.order.toNat), ("cmd", nat p.command.toNat), ("result", nat p.result.toNat)]

/-- The fields of an uplink notification. -/
def UplinkNotification.report (p : UplinkNotification) : Json :=
  .object [("protocol_version", nat p.version.toNat), ("unix_time", nat p.unixTime.toNat),
    ("device_id", .id64 p.device), ("sensor_id", nat p.sensor.toNat), ("rssi", .int p.rssi.toInt),
    ("reserved", nat p.reserved.toNat), ("payload", .hex p.payload)]

/-- The fields of a request to the router. -/
def JigInfoRequest.report (p : JigInfoRequest) : Json :=
  .object [("protocol_version", nat p.version.toNat), ("cmd", nat p.command.toNat),
    ("local_time", nat p.localTime.toNat), ("unix_time", nat p.unixTime.toNat)]

/-- The fields of a router's answer. -/
def JigInfoResponse.report (p : JigInfoResponse) : Json :=
  .object [("protocol_version", nat p.version.toNat), ("unix_time", nat p.unixTime.toNat),
    ("cmd", nat p.command.toNat), ("router_device_id", .id64 p.router), ("payload", .hex p.payload)]

/-- The fields of a firmware request. -/
def DfuRequest.report (p : DfuRequest) : Json :=
  .object [("protocol_version", nat p.version.toNat), ("unix_time", nat p.unixTime.toNat),
    ("total_length", nat p.totalLength.toNat)]

/-- The fields of a firmware answer. -/
def DfuResponse.report (p : DfuResponse) : Json :=
  .object [("protocol_version", nat p.version.toNat), ("unix_time", nat p.unixTime.toNat),
    ("result", nat p.result.toNat)]

/-- The fields of an error notification. -/
def ErrorNotification.report (p : ErrorNotification) : Json :=
  .object [("protocol_version", nat p.version.toNat), ("unix_time", nat p.unixTime.toNat),
    ("reason", nat p.reason.toNat)]

namespace Packet

/-- The name of a packet's kind. -/
def kind : Packet → String
  | .downlinkRequest _ => "downlink_request"
  | .downlinkResponse _ => "downlink_response"
  | .uplinkNotification _ => "uplink_notification"
  | .jigInfoRequest _ => "jig_info_request"
  | .jigInfoResponse _ => "jig_info_response"
  | .dfuRequest _ => "dfu_request"
  | .dfuResponse _ => "dfu_response"
  | .errorNotification _ => "error_notification"

/-- The fields of a packet. -/
def fields : Packet → Json
  | .downlinkRequest p => p.report
  | .downlinkResponse p => p.report
  | .uplinkNotification p => p.report
  | .jigInfoRequest p => p.report
  | .jigInfoResponse p => p.report
  | .dfuRequest p => p.report
  | .dfuResponse p => p.report
  | .errorNotification p => p.report

/-- A packet with the name of its kind. -/
def report (p : Packet) : Json := .object [("type", .string p.kind), ("packet", p.fields)]

end Packet
end SensorLink
