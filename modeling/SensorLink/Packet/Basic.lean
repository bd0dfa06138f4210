import SensorLink.Error.Malformed

/-!
# Packets

What the two ends of the link say to each other. The host sends three kinds of packet and the router
five; each has a type of its own with the fields that it carries, and `Packet` is any of the eight.

Every packet holds the protocol version and the time at which it was sent, in seconds since 1970. A
module is addressed by its 64-bit device id.
-/

namespace SensorLink

/-- The version of the protocol that the library speaks. -/
def protocolVersion : UInt8 := 0x01

/-- The order number of every request that is not a block of firmware. -/
def fixedOrder : UInt16 := 0xFFFF

/-- How far the router's local time is ahead of universal time: nine hours, in seconds. -/
def localOffset : UInt32 := 9 * 3600

/-- A request to a module, carried down by the router. -/
structure DownlinkRequest where
  version : UInt8 := protocolVersion
  unixTime : UInt32
  device : UInt64
  sensor : UInt16
  command : UInt8
  order : UInt16
  payload : Bytes
  deriving DecidableEq, Repr, Inhabited

/-- The router's word on a downlink request. -/
structure DownlinkResponse where
  version : UInt8 := protocolVersion
  unixTime : UInt32
  device : UInt64
  sensor : UInt16
  order : UInt16
  command : UInt8
  result : UInt8
  deriving DecidableEq, Repr, Inhabited

/-- What a module sends up, on its own or in reply. -/
structure UplinkNotification where
  version : UInt8 := protocolVersion
  unixTime : UInt32
  device : UInt64
  sensor : UInt16
  /-- Signal strength in dBm. -/
  rssi : Int8
  reserved : UInt16
  payload : Bytes
  deriving DecidableEq, Repr, Inhabited

/-- A request to the router itself. -/
structure JigInfoRequest where
  version : UInt8 := protocolVersion
  command : UInt8
  /-- The time of day where the router stands. -/
  localTime : UInt32
  unixTime : UInt32
  deriving DecidableEq, Repr, Inhabited

/-- The router's answer to a request to itself. -/
structure JigInfoResponse where
  version : UInt8 := protocolVersion
  unixTime : UInt32
  command : UInt8
  router : UInt64
  payload : Bytes
  deriving DecidableEq, Repr, Inhabited

/-- Asks the router to accept new firmware of a given length. -/
structure DfuRequest where
  version : UInt8 := protocolVersion
  unixTime : UInt32
  totalLength : UInt32
  deriving DecidableEq, Repr, Inhabited

/-- The router's answer to a `DfuRequest`. -/
structure DfuResponse where
  version : UInt8 := protocolVersion
  unixTime : UInt32
  result : UInt8
  deriving DecidableEq, Repr, Inhabited

/-- A failure that the router reports. -/
structure ErrorNotification where
  version : UInt8 := protocolVersion
  unixTime : UInt32
  reason : UInt8
  deriving DecidableEq, Repr, Inhabited

/-- Anything that can stand on the link. -/
inductive Packet where
  | downlinkRequest (request : DownlinkRequest)
  | downlinkResponse (response : DownlinkResponse)
  | uplinkNotification (uplink : UplinkNotification)
  | jigInfoRequest (request : JigInfoRequest)
  | jigInfoResponse (response : JigInfoResponse)
  | dfuRequest (request : DfuRequest)
  | dfuResponse (response : DfuResponse)
  | errorNotification (notification : ErrorNotification)
  deriving DecidableEq, Repr, Inhabited

/-- Whether the request was taken. -/
def DownlinkResponse.isSuccess (response : DownlinkResponse) : Bool := response.result = 0x00

/-- Whether the router waits for the image. -/
def DfuResponse.isReady (response : DfuResponse) : Bool := response.result = 0x01

/-- A request to the router at a given time; the local time wraps around as the clock does. -/
def JigInfoRequest.stamped (command : UInt8) (unixTime : UInt32) : JigInfoRequest :=
  { command, localTime := unixTime + localOffset, unixTime }

namespace Packet

/-- The end of the link that sends a packet. -/
def direction : Packet → Direction
  | .downlinkRequest _ | .jigInfoRequest _ | .dfuRequest _ => .hostToRouter
  | .downlinkResponse _ | .uplinkNotification _ | .jigInfoResponse _ | .dfuResponse _
  | .errorNotification _ => .routerToHost

/-- The module that a packet is about, where it is about one. -/
def device? : Packet → Option UInt64
  | .downlinkRequest request => some request.device
  | .downlinkResponse response => some response.device
  | .uplinkNotification uplink => some uplink.device
  | _ => none

/-- The protocol version that a packet carries. -/
def version : Packet → UInt8
  | .downlinkRequest p => p.version
  | .downlinkResponse p => p.version
  | .uplinkNotification p => p.version
  | .jigInfoRequest p => p.version
  | .jigInfoResponse p => p.version
  | .dfuRequest p => p.version
  | .dfuResponse p => p.version
  | .errorNotification p => p.version

/-- The packet without the time at which the host sent it. The local time of a request to the router
is kept as its distance from the universal one. -/
def unstamped : Packet → Packet
  | .downlinkRequest p => .downlinkRequest { p with unixTime := 0 }
  | .jigInfoRequest p =>
    .jigInfoRequest { p with localTime := p.localTime - p.unixTime, unixTime := 0 }
  | .dfuRequest p => .dfuRequest { p with unixTime := 0 }
  | p => p

end Packet
end SensorLink
