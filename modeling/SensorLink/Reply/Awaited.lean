import SensorLink.DeviceId
import SensorLink.Error.Basic
import SensorLink.Packet.Basic

/-!
# What a wait is for

A request is answered by one packet among all that the router sends. Which one, is a matter of what
was asked: the device, the command and, for a block of firmware, the order number must agree. A
packet that answers can also be a refusal, and then it ends the wait as an error.

`Awaited.judge` is the whole rule: it says of a single packet whether it is passed over or what the
wait comes to.
-/

namespace SensorLink

/-- The packet that a wait is for. -/
inductive Awaited where
  /-- The router's word on a request; a refusal is an error. -/
  | response (device : DeviceId) (command : UInt8)
  /-- An uplink of a sensor. The router's refusal of the command is an error, its consent is passed
  over. -/
  | uplink (device : DeviceId) (sensor : UInt16) (command : UInt8)
  /-- The router's answer to a request to itself. -/
  | answer (command : UInt8)
  /-- The router's word on a block of firmware, be it good or bad. -/
  | acknowledgement (device : DeviceId) (command : UInt8) (sequence : UInt16)
  /-- The router's answer to the announcement of new firmware. -/
  | updateAnswer
  deriving DecidableEq, Repr

namespace Awaited

/-- The kind of packet that a wait returns. -/
abbrev Reply : Awaited → Type
  | .response .. => DownlinkResponse
  | .uplink .. => UplinkNotification
  | .answer _ => JigInfoResponse
  | .acknowledgement .. => DownlinkResponse
  | .updateAnswer => DfuResponse

/-- A reply as a packet. -/
def packet : (awaited : Awaited) → awaited.Reply → Packet
  | .response .., r => .downlinkResponse r
  | .uplink .., r => .uplinkNotification r
  | .answer _, r => .jigInfoResponse r
  | .acknowledgement .., r => .downlinkResponse r
  | .updateAnswer, r => .dfuResponse r

/-- A refusal as an error. -/
def rejected (r : DownlinkResponse) : Error := .commandRejected r.command r.result

/-- What a wait comes to by a packet; `none` if the packet is passed over. -/
def judge : (awaited : Awaited) → Packet → Option (Except Error awaited.Reply)
  | .response device command, .downlinkResponse r =>
    if r.command = command ∧ r.device = device then
      some (if r.isSuccess then .ok r else .error (rejected r))
    else none
  | .uplink device sensor _, .uplinkNotification u =>
    if u.device = device ∧ u.sensor = sensor then some (.ok u) else none
  | .uplink device _ command, .downlinkResponse r =>
    if r.command = command ∧ r.device = device ∧ ¬ r.isSuccess then some (.error (rejected r))
    else none
  | .answer command, .jigInfoResponse r => if r.command = command then some (.ok r) else none
  | .acknowledgement device command sequence, .downlinkResponse r =>
    if r.command = command ∧ r.device = device ∧ r.order = sequence then some (.ok r) else none
  | .updateAnswer, .dfuResponse r => some (.ok r)
  | _, _ => none

end Awaited
end SensorLink
