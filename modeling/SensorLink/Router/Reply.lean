import SensorLink.Packet.Basic

/-!
# What the router answers

The payload of a router's answer means what the command that it answers makes it mean. `parse` reads
it by the shape of the command, and reads no more of it than that shape has: bytes behind it are not
looked at.
-/

namespace SensorLink

open Wire

/-- A slot of the router's device table and the id in it. -/
structure DeviceSlot where
  index : UInt8
  device : UInt64
  deriving DecidableEq, Repr

/-- A router's answer, by what it says. -/
inductive RouterReply where
  | version (major minor build : UInt8)
  | scanMode (mode : ScanMode)
  | status (success : Bool)
  | device (slot : DeviceSlot)
  | devices (slots : List DeviceSlot)
  deriving DecidableEq, Repr

namespace RouterReply

/-- The slots of a table of `count` ids, numbered from `index` on; `none` if the bytes end first. -/
def readSlots (index : Nat) : Nat → Bytes → Option (List DeviceSlot)
  | 0, _ => some []
  | count + 1, bytes => do
    let (id, rest) ← readU64 bytes
    let slots ← readSlots (index + 1) count rest
    pure (⟨UInt8.ofNat index, id⟩ :: slots)

/-- Reads a payload of the given shape; `none` if it is too short. The router reports a scan mode
that it does not know as long range. -/
def ofPayload? : RouterCommand.ReplyShape → Bytes → Option RouterReply
  | .version, major :: minor :: build :: _ => some (.version major minor build)
  | .scanMode, mode :: _ => some (.scanMode ((ScanMode.ofCode? mode).getD .longRange))
  | .deviceTable, count :: entries => (readSlots 0 count.toNat entries).map .devices
  | .deviceSlot, index :: entry => (readU64 entry).map fun (id, _) => .device ⟨index, id⟩
  | .status, code :: _ => some (.status (code = 0x01))
  | _, _ => none

/-- Interprets the payload of an answer by the command that it answers. A table too short for its
count reports the length that the count asks for. -/
def parse (response : JigInfoResponse) : Except Malformed RouterReply :=
  let command := RouterCommand.ofCode response.command
  match ofPayload? command.replyShape response.payload with
  | some reply => .ok reply
  | none =>
    let expected := (command.replyShape.length? response.payload).getD 1
    .error (.shortReply command expected response.payload.length)

end RouterReply
end SensorLink
