import SensorLink.Proofs.Framer.Delimited
import SensorLink.Proofs.Framer.Frames
import SensorLink.Proofs.Packet.Decision

/-!
# Three judges of one frame

Whether some bytes are a frame is decided in three places. A framer goes by `frameLength`, a decoder
by `Packet.decode`, and a sender by `Packet.encode`; each has checks of its own. This file says how
far they agree about bytes of the version that is spoken. An answer is left out: it has no length
field, and a decoder takes whatever is left as its payload.

> **the framer's frames are the frames that decode to what can be sent; a decoder takes one kind of
> bytes more, and a front that announces too much is all that is wrong with them**
> (`decode_agrees`).

So the decoder is the lenient one. It holds a length field against the bytes that are there and never
against the largest payload (`decode_oversized_uplink`), where the other two refuse.
-/

namespace SensorLink

open Wire

/-! ## From a packet to the length of its frame -/

/-- A packet that is no answer needs only the right version to be delimited. -/
theorem selfDelimiting_of_decode {d : Direction} {frame : Bytes} {p : Packet}
    (hversion : frame.head? = some protocolVersion)
    (hanswer : d = .routerToHost → frame[1]? ≠ some ResponseType.jigInfo.byte)
    (h : Packet.decode d frame = .ok p) : p.SelfDelimiting := by
  obtain ⟨rfl, rfl, -⟩ := Packet.decode_eq_ok_iff.mp h
  refine ⟨Option.some.inj hversion, ?_⟩
  rintro r rfl
  exact absurd rfl (hanswer rfl)

/-- What is decoded is as long as it announces, or announces more than is allowed. -/
theorem frameLength_of_decode {d : Direction} {frame : Bytes} {p : Packet}
    (hversion : frame.head? = some protocolVersion)
    (hanswer : d = .routerToHost → frame[1]? ≠ some ResponseType.jigInfo.byte)
    (h : Packet.decode d frame = .ok p) :
    frameLength d frame = .ok (some frame.length) ∨
      ∃ n, frameLength d frame = .error (.announcesTooMuch n) ∧ frame.length = 21 + n := by
  have hdelimited := selfDelimiting_of_decode hversion hanswer h
  obtain ⟨rfl, rfl, hfits⟩ := Packet.decode_eq_ok_iff.mp h
  by_cases hsize : p.Oversized
  · refine .inr ⟨_, frameLength_layout_of_oversized hdelimited.version hsize hfits, ?_⟩
    rw [Packet.length_layout]
    obtain ⟨hfield, -⟩ := hsize
    cases p <;> first | rfl | cases hfield
  · exact .inl (frameLength_layout hdelimited hsize)

/-! ## From an announced length to a packet -/

theorem declared_of_announcesTooMuch {d : Direction} {type : UInt8} {body : Bytes} {n : Nat}
    (h : frameLength d (protocolVersion :: type :: body) = .error (.announcesTooMuch n)) :
    lengthRule? d type = some .field ∧
      ∃ declared rest, body = u16 declared ++ rest ∧ declared.toNat = n := by
  cases Refused.of_frameLength h with
  | announcesTooMuch hrule _ => exact ⟨hrule, _, _, rfl, rfl⟩

/-- Bytes enough for the fields are the fields and the payload of a packet with a length field. -/
theorem exists_fieldPacket {d : Direction} {type : UInt8} {rest : Bytes} (v : UInt8)
    (hrule : lengthRule? d type = some .field) (h : 17 ≤ rest.length) :
    ∃ p : Packet, p.direction = d ∧ p.version = v ∧ p.typeByte = type ∧ p.hasLength = true ∧
      rest = p.fixedBytes ++ p.payload ∧ p.payload.length + 17 = rest.length := by
  cases d with
  | hostToRouter =>
    obtain ⟨kind, htype, hkind⟩ := Option.map_eq_some_iff.mp hrule
    cases kind <;> cases hkind
    obtain ⟨p, hversion, hrest, hpayload⟩ := DownlinkRequest.exists_fields v h
    exact ⟨.downlinkRequest p, rfl, hversion, RequestType.byte_of_ofByte? htype, rfl, hrest,
      hpayload⟩
  | routerToHost =>
    obtain ⟨kind, htype, hkind⟩ := Option.map_eq_some_iff.mp hrule
    cases kind <;> cases hkind
    obtain ⟨p, hversion, hrest, hpayload⟩ := UplinkNotification.exists_fields v h
    exact ⟨.uplinkNotification p, rfl, hversion, ResponseType.byte_of_ofByte? htype, rfl, hrest,
      hpayload⟩

/-- Behind a length field any payload of the declared length is decoded. -/
theorem Packet.decode_of_declared {d : Direction} {type : UInt8} {declared : UInt16} {rest : Bytes}
    (v : UInt8) (hrule : lengthRule? d type = some .field)
    (hrest : rest.length = 17 + declared.toNat) :
    ∃ p, Packet.decode d (v :: type :: (u16 declared ++ rest)) = .ok p := by
  have hlt := declared.toNat_lt
  have h17 : 17 ≤ rest.length := by omega
  obtain ⟨p, rfl, rfl, rfl, hfield, rfl, hpayload⟩ := exists_fieldPacket v hrule h17
  have hlength : p.payload.length = declared.toNat := by omega
  have hdeclared : UInt16.ofNat p.payload.length = declared := by
    rw [hlength, UInt16.ofNat_toNat]
  refine ⟨p, Packet.decode_eq_ok_iff.mpr ⟨rfl, ?_, fun _ => ?_⟩⟩
  · rw [Packet.layout, Packet.lengthBytes, if_pos hfield, hdeclared, List.append_assoc]
  · omega

theorem Packet.exists_decode_of_announcesTooMuch {d : Direction} {frame : Bytes} {n : Nat}
    (hversion : frame.head? = some protocolVersion)
    (h : frameLength d frame = .error (.announcesTooMuch n)) (hlength : frame.length = 21 + n) :
    ∃ p, Packet.decode d frame = .ok p := by
  match frame with
  | [] => cases hversion
  | [v] =>
    simp only [List.length_cons, List.length_nil] at hlength
    omega
  | v :: type :: body =>
    obtain rfl : v = protocolVersion := Option.some.inj hversion
    obtain ⟨hrule, declared, rest, rfl, rfl⟩ := declared_of_announcesTooMuch h
    simp only [List.length_cons, List.length_append, length_u16] at hlength
    exact Packet.decode_of_declared protocolVersion hrule (by omega)

/-! ## The agreement -/

/-- **Framer, decoder and encoder agree, but for what announces too much.** -/
theorem Packet.decode_agrees {d : Direction} {frame : Bytes}
    (hversion : frame.head? = some protocolVersion)
    (hanswer : d = .routerToHost → frame[1]? ≠ some ResponseType.jigInfo.byte) :
    (frameLength d frame = .ok (some frame.length) ↔
      ∃ p, Packet.decode d frame = .ok p ∧ p.encode = .ok frame) ∧
    ((∃ p, Packet.decode d frame = .ok p) ↔
      frameLength d frame = .ok (some frame.length) ∨
      ∃ n, frameLength d frame = .error (.announcesTooMuch n) ∧ frame.length = 21 + n) := by
  have hframed : frameLength d frame = .ok (some frame.length) ↔
      ∃ p, Packet.decode d frame = .ok p ∧ p.encode = .ok frame := by
    constructor
    · intro h
      obtain ⟨p, hvalid⟩ := frameLength_self_iff.mp h
      exact ⟨p, hvalid.decode_eq, hvalid.encoded⟩
    · rintro ⟨p, hdecode, hencode⟩
      -- Without answers, a packet of the right version says itself how long it is.
      have hdelimited := selfDelimiting_of_decode hversion hanswer hdecode
      obtain ⟨rfl, rfl, -⟩ := Packet.decode_eq_ok_iff.mp hdecode
      exact frameLength_layout hdelimited (Packet.encode_eq_ok_iff.mp hencode).1
  refine ⟨hframed, ?_⟩
  constructor
  · rintro ⟨p, hdecode⟩
    exact frameLength_of_decode hversion hanswer hdecode
  · rintro (h | ⟨n, herror, hlength⟩)
    · obtain ⟨p, hdecode, -⟩ := hframed.mp h
      exact ⟨p, hdecode⟩
    · exact Packet.exists_decode_of_announcesTooMuch hversion herror hlength

/-- A request with the largest payload that may be sent. -/
theorem Packet.decode_agrees_largest_request :
    let p : Packet := .downlinkRequest
      { unixTime := 0, device := 7, sensor := 0x0121, command := 0x05, order := fixedOrder,
        payload := List.replicate 1024 0x01 }
    let frame := p.layout
    frame.head? = some protocolVersion ∧
    (Direction.hostToRouter = .routerToHost → frame[1]? ≠ some ResponseType.jigInfo.byte) ∧
    (frameLength .hostToRouter frame = .ok (some frame.length) ↔
      ∃ p, Packet.decode .hostToRouter frame = .ok p ∧ p.encode = .ok frame) ∧
    ((∃ p, Packet.decode .hostToRouter frame = .ok p) ↔
      frameLength .hostToRouter frame = .ok (some frame.length) ∨
      ∃ n, frameLength .hostToRouter frame = .error (.announcesTooMuch n) ∧
        frame.length = 21 + n) := by
  intro p frame
  have hversion : frame.head? = some protocolVersion := rfl
  have hanswer : Direction.hostToRouter = .routerToHost →
      frame[1]? ≠ some ResponseType.jigInfo.byte := nofun
  exact ⟨hversion, hanswer, Packet.decode_agrees hversion hanswer⟩

/-- **A payload that is one byte too large is decoded**, although it can neither be found in a stream
nor be sent. -/
theorem Packet.decode_oversized_uplink :
    let p : Packet := .uplinkNotification
      { unixTime := 0, device := 7, sensor := 0x0121, rssi := -58, reserved := 0,
        payload := List.replicate 1025 0x00 }
    p.layout.head? = some protocolVersion ∧
    p.layout[1]? ≠ some ResponseType.jigInfo.byte ∧
    Packet.decode .routerToHost p.layout = .ok p ∧
    frameLength .routerToHost p.layout = .error (.announcesTooMuch 1025) ∧
    p.encode = .error (.payloadTooLong 1025) := by
  intro p
  have hpayload : p.payload.length = 1025 := List.length_replicate
  have hsize : p.Oversized := ⟨rfl, by rw [hpayload]; decide⟩
  have hfits : p.Announceable := fun _ => by rw [hpayload]; decide
  have htype : p.layout[1]? = some ResponseType.uplink.byte := rfl
  refine ⟨rfl, by rw [htype]; decide, Packet.decode_layout hfits, ?_, ?_⟩
  · have herror := frameLength_layout_of_oversized rfl hsize hfits
    rwa [hpayload] at herror
  · rw [Packet.encode_eq, if_pos hsize, hpayload]

end SensorLink
