import SensorLink.Router.Command

/-!
# Bytes that do not have the shape they should

Every way in which bytes can fail to be a frame, or a payload to be what its frame says it is. Each
cause carries the numbers that its text reports; the text itself is made in one place, `message`.
-/

namespace SensorLink

/-- Which side of the link a frame was sent by. The type byte of a frame means different things in
the two directions. -/
inductive Direction where
  | hostToRouter
  | routerToHost
  deriving DecidableEq, Repr, Inhabited

/-- The name of a direction in error texts. -/
def Direction.name : Direction → String
  | .hostToRouter => "HostToRouter"
  | .routerToHost => "RouterToHost"

/-- A kind of frame, where an error text names it. -/
inductive FrameKind where
  | frame
  | downlinkRequest
  | downlinkResponse
  | uplinkNotification
  | jigInfoRequest
  | jigInfoResponse
  | dfuRequest
  | dfuResponse
  | errorNotification
  deriving DecidableEq, Repr

/-- The name of a kind of frame in error texts. -/
def FrameKind.name : FrameKind → String
  | .frame => "frame"
  | .downlinkRequest => "downlink request"
  | .downlinkResponse => "downlink response"
  | .uplinkNotification => "uplink notification"
  | .jigInfoRequest => "JIG info request"
  | .jigInfoResponse => "JIG info response"
  | .dfuRequest => "DFU request"
  | .dfuResponse => "DFU response"
  | .errorNotification => "error notification"

/-- The largest payload that a frame with a length field may carry. -/
def maxPayload : Nat := 1024

/-- Why bytes are not what they should be. -/
inductive Malformed where
  /-- The first byte is not the protocol version. -/
  | badVersion (version : UInt8)
  /-- No frame of this direction has this type byte. -/
  | unknownType (type : UInt8) (direction : Direction)
  /-- The length field of an unfinished frame announces too large a payload. -/
  | announcesTooMuch (declared : Nat)
  /-- The bytes end inside the fixed part of the frame. -/
  | tooShort (kind : FrameKind) (least actual : Nat)
  /-- A frame of fixed size has another size. -/
  | wrongSize (kind : FrameKind) (size actual : Nat)
  /-- A payload is too large to be sent. -/
  | payloadTooLong (length : Nat)
  /-- The length field announces more than there is. -/
  | payloadCutOff (declared available : Nat)
  /-- The length field announces less than there is. -/
  | trailingBytes (declared available : Nat)
  /-- A router's reply is shorter than its command asks for. -/
  | shortReply (command : RouterCommand) (expected actual : Nat)
  /-- An illuminance reading ends inside its header. -/
  | shortReading (actual : Nat)
  /-- An illuminance reading has fewer samples than it says. -/
  | missingSamples (declared available : Nat)
  /-- A block of illuminance parameters is too short. -/
  | shortParameters (actual : Nat)
  deriving DecidableEq, Repr

/-- What is said about bytes of the wrong shape. -/
def Malformed.message : Malformed → String
  | .badVersion version => s!"unexpected protocol version 0x{Hex.byte version}"
  | .unknownType type direction => s!"unknown packet type 0x{Hex.byte type} for {direction.name}"
  | .announcesTooMuch declared =>
    s!"declared data length {declared} exceeds the {maxPayload}-byte maximum"
  | .tooShort kind least actual =>
    s!"{kind.name} too short: expected at least {least} bytes, got {actual}"
  | .wrongSize kind size actual => s!"{kind.name} must be {size} bytes, got {actual}"
  | .payloadTooLong length => s!"payload of {length} bytes exceeds the {maxPayload}-byte maximum"
  | .payloadCutOff declared available =>
    s!"declared data length {declared} exceeds the {available} bytes available"
  | .trailingBytes declared available =>
    s!"{available - declared} trailing bytes after declared data length {declared}"
  | .shortReply command expected actual =>
    s!"{command.name} payload too short: expected {expected} bytes, got {actual}"
  | .shortReading actual =>
    s!"illuminance reading too short: expected at least 8 bytes, got {actual}"
  | .missingSamples declared available =>
    s!"illuminance reading declares {declared} samples but carries {available} bytes"
  | .shortParameters actual =>
    s!"illuminance parameter block too short: expected 24 bytes, got {actual}"

end SensorLink
