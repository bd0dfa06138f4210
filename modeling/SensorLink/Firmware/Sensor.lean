import SensorLink.DeviceId
import SensorLink.Packet.Basic

/-!
# New firmware for a sensor

An image goes to a module as a series of downlink requests with command `0x12`. The order number of
a request is the sequence number of its block:

* block `0x0000` names the hardware and is filled up with `0xFF`;
* block `0x0001` starts with the length of the image and holds its first bytes, filled up as well;
* blocks `0x0002`, `0x0003`, … hold the bytes that follow, all of them full, as long as more than
  one block's worth is left;
* block `0xFFFF` holds what is left, possibly nothing.

The image ends in a checksum of its own, so nothing is added at its end. The sequence numbers limit
how large an image can be.
-/

namespace SensorLink

/-- One block of a transfer. -/
structure FirmwareBlock where
  sequence : UInt16
  payload : Bytes
  /-- How many bytes of the payload are bytes of the image. -/
  carried : Nat
  deriving DecidableEq, Repr

namespace FirmwareBlock

/-- The command of a block request. -/
def command : UInt8 := 0x12

/-- How long the payload of every block but the last is. -/
def size : Nat := 238

/-- How many bytes of the image the length block holds. -/
def lengthBlockRoom : Nat := size - 4

/-- The sequence number of the last block. -/
def finalSequence : UInt16 := 0xFFFF

/-- What unused room is filled with. -/
def filler : UInt8 := 0xFF

/-- How many blocks the sequence numbers allow between the length block and the last. -/
def maxContinuations : Nat := 0xFFFD

/-- The largest image that fits. -/
def maxImage : Nat := lengthBlockRoom + size * maxContinuations + size

/-- Whether this is the last block. -/
def isFinal (block : FirmwareBlock) : Bool := block.sequence = finalSequence

/-- The first block: hardware id zero. -/
def header : FirmwareBlock :=
  ⟨0x0000, Wire.u16 0 ++ List.replicate (size - 2) filler, 0⟩

/-- The block with the length of the image and its first bytes. -/
def lengthBlock (length : Nat) (first : Bytes) : FirmwareBlock :=
  ⟨0x0001,
    Wire.u32 (UInt32.ofNat length) ++ first
      ++ List.replicate (lengthBlockRoom - first.length) filler,
    first.length⟩

/-- The blocks for the bytes behind the length block, the first of them with number `sequence`.
`left` bounds how many full ones may come before the last. -/
def rest (sequence : Nat) (image : Bytes) : Nat → List FirmwareBlock
  | 0 => [⟨finalSequence, image, image.length⟩]
  | left + 1 =>
    -- One byte more than a block holds, so that there is something left for the last one.
    match Wire.take? (size + 1) image with
    | none => [⟨finalSequence, image, image.length⟩]
    | some _ =>
      ⟨UInt16.ofNat sequence, image.take size, size⟩ :: rest (sequence + 1) (image.drop size) left

/-- All blocks of an image, in the order in which they are sent. -/
def ofImage (image : Bytes) : List FirmwareBlock :=
  header :: lengthBlock image.length (image.take lengthBlockRoom)
    :: rest 2 (image.drop lengthBlockRoom) maxContinuations

end FirmwareBlock

/-- The update of one module. -/
structure FirmwareUpdate where
  device : DeviceId
  sensor : UInt16
  length : Nat
  blocks : List FirmwareBlock
  deriving Repr

namespace FirmwareUpdate

/-- Cuts an image into blocks for a module. -/
def ofImage (device : DeviceId) (sensor : UInt16) (image : Bytes) : Except Error FirmwareUpdate :=
  if FirmwareBlock.maxImage < image.length then
    .error (.invalidParameter (.sensorImageTooLong image.length FirmwareBlock.maxImage))
  else .ok ⟨device, sensor, image.length, FirmwareBlock.ofImage image⟩

/-- Cuts an image into blocks for a module whose id is given as text. -/
def build (device : String) (sensor : UInt16) (image : Bytes) : Except Error FirmwareUpdate := do
  let device ← DeviceId.parse device
  ofImage device sensor image

/-- The request that carries a block. -/
def request (update : FirmwareUpdate) (unixTime : UInt32) (block : FirmwareBlock) :
    DownlinkRequest where
  unixTime
  device := update.device
  sensor := update.sensor
  command := FirmwareBlock.command
  order := block.sequence
  payload := block.payload

end FirmwareUpdate
end SensorLink
