import SensorLink.Packet.Codec

/-!
# How long a frame is

The link delivers bytes in pieces of any size, so before a frame can be decoded one has to know
where it ends, and one has to know it from its first bytes. `frameLength` answers in three ways: the
length is known, it is not known *yet*, or these bytes cannot start a frame.

It never waits for more than the bytes that decide: a fixed kind is known from its type byte, a
length field from its two bytes, a router's answer from its command code (and, for a device table,
from the count behind it).
-/

namespace SensorLink

open Wire

/-- The length of a frame with a length field at offset 2 and `header` bytes before its payload. -/
def prefixedLength (header : Nat) (frame : Bytes) : Except Malformed (Option Nat) :=
  match frame with
  | _ :: _ :: low :: high :: _ =>
    let declared := leValue [low, high]
    if maxPayload < declared then .error (.announcesTooMuch declared)
    else .ok (some (header + declared))
  | _ => .ok none

/-- The length of a router's answer, which depends on what it answers. -/
def answerLength (frame : Bytes) : Option Nat :=
  -- The version has been looked at and makes no difference to the length.
  match JigInfoResponse.read 0 (frame.drop 2) with
  | none => none
  | some answer => (RouterCommand.replyLength? answer.command answer.payload).map (15 + ·)

/-- The length of the frame at the front of what has been received: known, not known yet (`none`),
or an error where no frame can start like this. -/
def frameLength (direction : Direction) (received : Bytes) : Except Malformed (Option Nat) :=
  match received with
  | [] => .ok none
  | version :: rest =>
    if version ≠ protocolVersion then .error (.badVersion version)
    else
      match rest with
      | [] => .ok none
      | type :: _ =>
        match direction with
        | .hostToRouter =>
          match RequestType.ofByte? type with
          | some .downlink => prefixedLength 21 received
          | some .jigInfo => .ok (some 11)
          | some .dfu => .ok (some 10)
          | none => .error (.unknownType type direction)
        | .routerToHost =>
          match ResponseType.ofByte? type with
          | some .uplink => prefixedLength 21 received
          | some .downlinkResponse => .ok (some 20)
          | some .jigInfo => .ok (answerLength received)
          | some .dfu => .ok (some 7)
          | some .errorNotification => .ok (some 7)
          | none => .error (.unknownType type direction)

/-- Whether a type byte names a frame of a direction. -/
def knownType (direction : Direction) (type : UInt8) : Bool :=
  match direction with
  | .hostToRouter => (RequestType.ofByte? type).isSome
  | .routerToHost => (ResponseType.ofByte? type).isSome

/-- Whether a frame could start here: the version is right, and so is the type if it is there. -/
def plausibleStart (direction : Direction) : Bytes → Bool
  | [] => false
  | [version] => version = protocolVersion
  | version :: type :: _ => version = protocolVersion && knownType direction type

/-- The shortest frame has seven bytes. -/
theorem seven_le_frameLength {direction : Direction} {received : Bytes} {n : Nat}
    (h : frameLength direction received = .ok (some n)) : 7 ≤ n := by
  have hprefixed : ∀ frame, prefixedLength 21 frame = .ok (some n) → 7 ≤ n := by
    intro frame hf
    unfold prefixedLength at hf
    split at hf
    · simp only at hf
      split at hf
      · cases hf
      · cases hf; omega
    · cases hf
  have hanswer : answerLength received = some n → 7 ≤ n := by
    intro ha
    unfold answerLength at ha
    split at ha
    · cases ha
    · simp only [Option.map_eq_some_iff] at ha
      obtain ⟨_, _, rfl⟩ := ha
      omega
  unfold frameLength at h
  split at h
  · cases h
  split at h
  · cases h
  split at h
  · cases h
  split at h
  · split at h
    · exact hprefixed _ h
    · cases h; decide
    · cases h; decide
    · cases h
  · split at h
    · exact hprefixed _ h
    · cases h; decide
    · simp only [Except.ok.injEq] at h
      exact hanswer h
    · cases h; decide
    · cases h; decide
    · cases h

end SensorLink
