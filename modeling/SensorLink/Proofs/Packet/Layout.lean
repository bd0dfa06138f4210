import SensorLink.Packet.Codec

/-!
# The layout of a packet — one description for eight encoders and eight decoders

`Packet.encode` and `Packet.decode` each have eight arms, and the arms are not alike: two carry a
length field, one carries whatever is left, five have a fixed size, and the same type byte means
different things in the two directions. `Packet.layout` says for all of them at once where the
bytes stand. Both sides of the codec are then measured against it:

> **encoding writes the layout, unless the payload behind a length field is larger than may be
> sent** (`encode_eq`);
>
> **decoding answers `p` exactly on the layout of `p`** (`decode_eq_ok_iff`).

The two round trips are consequences. The asymmetry between them is real and is kept: the decoder
checks a declared length against what is there, not against the limit, so it accepts payloads
from 1025 to 65535 bytes that the encoder refuses to write.
-/

namespace SensorLink
namespace Packet

open Wire

/-! ## What a frame is made of -/

/-- The kind of frame a packet is sent as. -/
def frameKind : Packet → FrameKind
  | .downlinkRequest _ => .downlinkRequest
  | .downlinkResponse _ => .downlinkResponse
  | .uplinkNotification _ => .uplinkNotification
  | .jigInfoRequest _ => .jigInfoRequest
  | .jigInfoResponse _ => .jigInfoResponse
  | .dfuRequest _ => .dfuRequest
  | .dfuResponse _ => .dfuResponse
  | .errorNotification _ => .errorNotification

def typeByte : Packet → UInt8
  | .downlinkRequest _ => RequestType.downlink.byte
  | .jigInfoRequest _ => RequestType.jigInfo.byte
  | .dfuRequest _ => RequestType.dfu.byte
  | .uplinkNotification _ => ResponseType.uplink.byte
  | .downlinkResponse _ => ResponseType.downlinkResponse.byte
  | .jigInfoResponse _ => ResponseType.jigInfo.byte
  | .dfuResponse _ => ResponseType.dfu.byte
  | .errorNotification _ => ResponseType.errorNotification.byte

/-- The fields of fixed width, the length field apart. -/
def fixedBytes : Packet → Bytes
  | .downlinkRequest p => p.fields
  | .downlinkResponse p => p.fields
  | .uplinkNotification p => p.fields
  | .jigInfoRequest p => p.fields
  | .jigInfoResponse p => p.fields
  | .dfuRequest p => p.fields
  | .dfuResponse p => p.fields
  | .errorNotification p => p.fields

/-- What follows the fields of fixed width; nothing in a frame of fixed size. -/
def payload : Packet → Bytes
  | .downlinkRequest p => p.payload
  | .uplinkNotification p => p.payload
  | .jigInfoResponse p => p.payload
  | _ => []

/-- Whether the frame announces its payload in a length field at offset 2. -/
def hasLength : Packet → Bool
  | .downlinkRequest _ | .uplinkNotification _ => true
  | _ => false

def lengthBytes (p : Packet) : Bytes :=
  if p.hasLength then u16 (UInt16.ofNat p.payload.length) else []

/-- Every byte of the frame of a packet, in order. -/
def layout (p : Packet) : Bytes :=
  p.version :: p.typeByte :: (p.lengthBytes ++ p.fixedBytes ++ p.payload)

/-- Too large a payload behind a length field: the one thing that may not be sent. -/
def Oversized (p : Packet) : Prop := p.hasLength ∧ maxPayload < p.payload.length

instance (p : Packet) : Decidable p.Oversized := inferInstanceAs (Decidable (_ ∧ _))

/-- The length field, where there is one, can hold the length of the payload. -/
def Announceable (p : Packet) : Prop := p.hasLength → p.payload.length < 65536

theorem announceable_of_not_oversized {p : Packet} (h : ¬ p.Oversized) : p.Announceable := by
  intro hlen
  have : ¬ maxPayload < p.payload.length := fun hlt => h ⟨hlen, hlt⟩
  unfold maxPayload at this
  omega

theorem length_layout (p : Packet) :
    p.layout.length = frameSize p.frameKind + p.payload.length := by
  cases p <;>
    simp [layout, lengthBytes, hasLength, fixedBytes, payload, frameKind, frameSize,
      DownlinkRequest.fields, DownlinkResponse.fields, UplinkNotification.fields,
      JigInfoRequest.fields, JigInfoResponse.fields, DfuRequest.fields, DfuResponse.fields,
      ErrorNotification.fields] <;>
    omega

/-- A packet's length field, read back, is the length of its payload. -/
theorem leValue_lengthBytes {p : Packet} (hlen : p.hasLength) (h : p.Announceable) :
    leValue p.lengthBytes = p.payload.length := by
  have := h hlen
  rw [lengthBytes, if_pos hlen, u16, leValue_leBytes, UInt16.toNat_ofNat']
  omega

/-! ## Encoding writes the layout -/

theorem encode_eq (p : Packet) :
    p.encode = if p.Oversized then .error (.payloadTooLong p.payload.length) else .ok p.layout := by
  cases p with
  | downlinkRequest p | uplinkNotification p =>
    simp only [encode, lengthField, Oversized, hasLength, payload, true_and]
    split
    · rfl
    · rfl
  | _ =>
    simp [encode, Oversized, hasLength, layout, version, typeByte, lengthBytes, fixedBytes, payload]

theorem encode_eq_ok_iff {p : Packet} {frame : Bytes} :
    p.encode = .ok frame ↔ ¬ p.Oversized ∧ frame = p.layout := by
  rw [encode_eq]
  by_cases h : p.Oversized
  · simp [h]
  · simp [h, eq_comm]

/-! ## Decoding answers on the layout, and only there -/

/-- A length field that passes its check is the field of the payload it was checked against. -/
theorem checkLength_map_eq_ok_iff {declared : UInt16} {payload : Bytes} {p q : Packet} :
    (checkLength declared payload).map (fun _ => p) = .ok q ↔
      declared = UInt16.ofNat payload.length ∧ payload.length < 65536 ∧ q = p := by
  have hfield : checkLength declared payload = .ok () ↔
      declared = UInt16.ofNat payload.length ∧ payload.length < 65536 := by
    have := declared.toNat_lt
    rw [checkLength_eq_ok_iff, ← UInt16.toNat_inj, UInt16.toNat_ofNat']
    omega
  cases hc : checkLength declared payload with
  | error cause =>
    rw [hc] at hfield
    simp only [reduceCtorEq, false_iff] at hfield
    simp only [Except.map, reduceCtorEq, false_iff]
    exact fun h => hfield ⟨h.1, h.2.1⟩
  | ok _ =>
    obtain ⟨hdeclared, hlt⟩ := hfield.mp hc
    simp [Except.map, ← hdeclared, hlt, eq_comm]

theorem decode_layout {p : Packet} (h : p.Announceable) :
    decode p.direction p.layout = .ok p := by
  cases p with
  | downlinkRequest p =>
    have hread : DownlinkRequest.read p.version
        (u16 (UInt16.ofNat p.payload.length) ++ p.fields ++ p.payload) = some (_, p) :=
      DownlinkRequest.read_eq_some_iff.mpr ⟨rfl, rfl⟩
    simp only [direction, layout, decode, version, typeByte, RequestType.ofByte?_byte, hread,
      lengthBytes, hasLength, if_true, fixedBytes, payload]
    exact checkLength_map_eq_ok_iff.mpr ⟨rfl, h rfl, rfl⟩
  | uplinkNotification p =>
    have hread : UplinkNotification.read p.version
        (u16 (UInt16.ofNat p.payload.length) ++ p.fields ++ p.payload) = some (_, p) :=
      UplinkNotification.read_eq_some_iff.mpr ⟨rfl, rfl⟩
    simp only [direction, layout, decode, version, typeByte, ResponseType.ofByte?_byte, hread,
      lengthBytes, hasLength, if_true, fixedBytes, payload]
    exact checkLength_map_eq_ok_iff.mpr ⟨rfl, h rfl, rfl⟩
  | jigInfoResponse p =>
    have hread : JigInfoResponse.read p.version (p.fields ++ p.payload) = some p :=
      JigInfoResponse.read_eq_some_iff.mpr ⟨rfl, rfl⟩
    simp only [direction, layout, decode, version, typeByte, ResponseType.ofByte?_byte,
      lengthBytes, hasLength, Bool.false_eq_true, if_false, List.nil_append, fixedBytes, payload,
      hread]
  -- The five of fixed size differ in their readers alone: nothing is left behind their fields.
  | downlinkResponse p | jigInfoRequest p | dfuRequest p | dfuResponse p | errorNotification p =>
    simp only [direction, layout, decode, version, typeByte, RequestType.ofByte?_byte,
      ResponseType.ofByte?_byte, ofFixed_eq_ok_iff]
    refine ⟨p, ?_, rfl⟩
    simp only [DownlinkResponse.read_eq_some_iff, JigInfoRequest.read_eq_some_iff,
      DfuRequest.read_eq_some_iff, DfuResponse.read_eq_some_iff,
      ErrorNotification.read_eq_some_iff, true_and]
    rfl

theorem eq_layout_of_decode {d : Direction} {frame : Bytes} {p : Packet}
    (h : decode d frame = .ok p) : p.direction = d ∧ frame = p.layout ∧ p.Announceable := by
  -- Every arm ends alike: the reader's equivalence gives the body back, the type its byte.
  unfold decode at h
  split at h
  case h_2 => cases h
  rename_i v type body
  cases d with
  | hostToRouter =>
    simp only at h
    split at h
    case h_1 htype =>
      split at h
      · cases h
      · rename_i declared p hread
        obtain ⟨rfl, hlt, rfl⟩ := checkLength_map_eq_ok_iff.mp h
        obtain ⟨rfl, rfl⟩ := DownlinkRequest.read_eq_some_iff.mp hread
        exact ⟨rfl, by rw [← RequestType.byte_of_ofByte? htype]; rfl, fun _ => hlt⟩
    case h_2 htype =>
      obtain ⟨p, hread, rfl⟩ := ofFixed_eq_ok_iff.mp h
      obtain ⟨rfl, rfl⟩ := JigInfoRequest.read_eq_some_iff.mp hread
      exact ⟨rfl, by rw [← RequestType.byte_of_ofByte? htype]; rfl, nofun⟩
    case h_3 htype =>
      obtain ⟨p, hread, rfl⟩ := ofFixed_eq_ok_iff.mp h
      obtain ⟨rfl, rfl⟩ := DfuRequest.read_eq_some_iff.mp hread
      exact ⟨rfl, by rw [← RequestType.byte_of_ofByte? htype]; rfl, nofun⟩
    case h_4 => cases h
  | routerToHost =>
    simp only at h
    split at h
    case h_1 htype =>
      split at h
      · cases h
      · rename_i declared p hread
        obtain ⟨rfl, hlt, rfl⟩ := checkLength_map_eq_ok_iff.mp h
        obtain ⟨rfl, rfl⟩ := UplinkNotification.read_eq_some_iff.mp hread
        exact ⟨rfl, by rw [← ResponseType.byte_of_ofByte? htype]; rfl, fun _ => hlt⟩
    case h_2 htype =>
      obtain ⟨p, hread, rfl⟩ := ofFixed_eq_ok_iff.mp h
      obtain ⟨rfl, rfl⟩ := DownlinkResponse.read_eq_some_iff.mp hread
      exact ⟨rfl, by rw [← ResponseType.byte_of_ofByte? htype]; rfl, nofun⟩
    case h_3 htype =>
      split at h
      · cases h
      · rename_i p hread
        cases h
        obtain ⟨rfl, rfl⟩ := JigInfoResponse.read_eq_some_iff.mp hread
        exact ⟨rfl, by rw [← ResponseType.byte_of_ofByte? htype]; rfl, nofun⟩
    case h_4 htype =>
      obtain ⟨p, hread, rfl⟩ := ofFixed_eq_ok_iff.mp h
      obtain ⟨rfl, rfl⟩ := DfuResponse.read_eq_some_iff.mp hread
      exact ⟨rfl, by rw [← ResponseType.byte_of_ofByte? htype]; rfl, nofun⟩
    case h_5 htype =>
      obtain ⟨p, hread, rfl⟩ := ofFixed_eq_ok_iff.mp h
      obtain ⟨rfl, rfl⟩ := ErrorNotification.read_eq_some_iff.mp hread
      exact ⟨rfl, by rw [← ResponseType.byte_of_ofByte? htype]; rfl, nofun⟩
    case h_6 => cases h

theorem decode_eq_ok_iff {d : Direction} {frame : Bytes} {p : Packet} :
    decode d frame = .ok p ↔ p.direction = d ∧ frame = p.layout ∧ p.Announceable := by
  constructor
  · exact eq_layout_of_decode
  · rintro ⟨rfl, rfl, h⟩
    exact decode_layout h

/-! ## The two round trips -/

theorem decode_encode {p : Packet} {frame : Bytes} (h : p.encode = .ok frame) :
    decode p.direction frame = .ok p := by
  obtain ⟨hsize, rfl⟩ := encode_eq_ok_iff.mp h
  exact decode_layout (announceable_of_not_oversized hsize)

/-- **What is encoded decodes to itself, and only an oversized packet is not encoded.** -/
theorem encode_roundTrip (p : Packet) :
    ((∃ cause, p.encode = .error cause) ↔ p.Oversized) ∧
    (¬ p.Oversized → ∃ frame, p.encode = .ok frame ∧ decode p.direction frame = .ok p ∧
      frame.length = frameSize p.frameKind + p.payload.length ∧
      (p.hasLength → leValue ((frame.drop 2).take 2) = p.payload.length)) := by
  constructor
  · rw [encode_eq]
    by_cases h : p.Oversized
    · simp [h]
    · simp [h]
  · intro h
    have hencode : p.encode = .ok p.layout := encode_eq_ok_iff.mpr ⟨h, rfl⟩
    refine ⟨p.layout, hencode, decode_encode hencode, length_layout p, fun hlen => ?_⟩
    have hfield : (p.layout.drop 2).take 2 = p.lengthBytes := by
      simp [layout, lengthBytes, hlen]
    rw [hfield]
    exact leValue_lengthBytes hlen (announceable_of_not_oversized h)

/-- An uplink with a negative signal strength and a payload that looks like the start of a frame. -/
theorem encode_roundTrip_uplink :
    let p : Packet := .uplinkNotification
      { version := 0x7F, unixTime := 1700000000, device := 0xFFEEDDCCBBAA9988, sensor := 0x0121,
        rssi := -58, reserved := 0xFFFF, payload := [0x01, 0x00, 0xFF] }
    ¬ p.Oversized ∧ ∃ frame, p.encode = .ok frame ∧ decode p.direction frame = .ok p ∧
      frame.length = frameSize p.frameKind + p.payload.length ∧
      (p.hasLength → leValue ((frame.drop 2).take 2) = p.payload.length) := by
  intro p
  have h : ¬ p.Oversized := by decide
  exact ⟨h, (encode_roundTrip p).2 h⟩

/-- **No byte of an accepted frame is ignored**: the packet and the direction determine all of
them, and encoding gives them back unless the payload is larger than may be sent. -/
theorem decode_lossless {d : Direction} {frame : Bytes} {p : Packet}
    (h : decode d frame = .ok p) :
    p.direction = d ∧
    (p.encode = .ok frame ∨ p.Oversized ∧ p.encode = .error (.payloadTooLong p.payload.length)) ∧
    ∀ other, decode d other = .ok p → other = frame := by
  obtain ⟨hd, rfl, -⟩ := decode_eq_ok_iff.mp h
  refine ⟨hd, ?_, fun other hother => (decode_eq_ok_iff.mp hother).2.1⟩
  rw [encode_eq]
  by_cases hover : p.Oversized
  · exact Or.inr ⟨hover, if_pos hover⟩
  · exact Or.inl (if_neg hover)

/-- A request of another protocol version, which the decoder does not look at, with two bytes of
payload. -/
theorem decode_lossless_request :
    let frame : Bytes :=
      [0x7F, 0x00, 0x02, 0x00, 0x00, 0xF1, 0x53, 0x65, 0x88, 0x99, 0xAA, 0xBB, 0xCC, 0xDD, 0xEE,
        0xFF, 0x21, 0x01, 0x0C, 0xFF, 0xFF, 0xAB, 0xCD]
    let p : Packet := .downlinkRequest
      { version := 0x7F, unixTime := 1700000000, device := 0xFFEEDDCCBBAA9988, sensor := 0x0121,
        command := 0x0C, order := 0xFFFF, payload := [0xAB, 0xCD] }
    decode .hostToRouter frame = .ok p ∧ p.direction = .hostToRouter ∧
    (p.encode = .ok frame ∨ p.Oversized ∧ p.encode = .error (.payloadTooLong p.payload.length)) ∧
    ∀ other, decode .hostToRouter other = .ok p → other = frame := by
  intro frame p
  have h : decode .hostToRouter frame = .ok p := rfl
  exact ⟨h, decode_lossless h⟩

end Packet
end SensorLink
