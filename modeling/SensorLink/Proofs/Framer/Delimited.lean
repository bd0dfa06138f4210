import SensorLink.Proofs.Framer.Noise
import SensorLink.Proofs.Packet.Fields

/-!
# What a known length promises

`frameLength` and `Packet.decode` are two readers of the same frame, and nothing in their text ties
one to the other: the first looks at a few leading bytes and answers a number, the second takes the
bytes that were counted off and looks at every one of them. A framer trusts that they agree. It cuts
where the first says, and if the second then refused what was cut out, a good stretch of the stream
would be thrown away. That the frame of a packet has the length that it announces is one half of the
agreement. This file adds the other:

> **bytes that are as long as their front announces are a valid frame, and only they are**
> (`frameLength_eq_length_iff`).

The argument is the same for all eight kinds. There are bytes enough for the fields, so the fields
can be read off the front (`exists_fields`); what the length counts beyond them is the payload, and
the payload is as long as its length field, or its command, has it.
-/

namespace SensorLink

open Wire

/-! ## Lengths that depend on what is in the frame -/

/-- A known length behind a length field is that of the header and of what the field declares. -/
theorem declared_of_prefixedLength {v type : UInt8} {body kept : Bytes} (h5 : 5 ≤ body.length)
    (h : prefixedLength 21 (v :: type :: (body ++ kept)) = .ok (some (body.length + 2))) :
    ∃ declared rest, body = u16 declared ++ rest ∧ rest.length = 17 + declared.toNat ∧
      declared.toNat ≤ maxPayload := by
  obtain ⟨declared, rest, rfl, hrest⟩ := exists_u16 body (by omega)
  rw [← hrest, List.append_assoc, prefixedLength_field] at h
  split at h
  · cases h
  · rename_i hle
    simp only [Except.ok.injEq, Option.some.injEq] at h
    exact ⟨declared, rest, rfl, by omega, Nat.le_of_not_lt hle⟩

/-- A known length of a router's answer counts the payload that its command implies. -/
theorem replyLength?_of_answerLength {v type : UInt8} {p : JigInfoResponse} {kept : Bytes}
    (h : answerLength (v :: type :: (p.fields ++ p.payload ++ kept)) =
      some (15 + p.payload.length)) :
    RouterCommand.replyLength? p.command p.payload = some p.payload.length := by
  have hread : JigInfoResponse.read 0 (p.fields ++ p.payload ++ kept) =
      some { p with version := 0, payload := p.payload ++ kept } :=
    JigInfoResponse.read_eq_some_iff.mpr ⟨rfl, by rw [List.append_assoc]; rfl⟩
  simp only [answerLength, List.drop_succ_cons, List.drop_zero, hread, Option.map_eq_some_iff] at h
  obtain ⟨n, hn, hlen⟩ := h
  have hn' : n = p.payload.length := by omega
  subst hn'
  have hknown : RouterCommand.replyLength? p.command p.payload ≠ none := by
    intro hnone
    -- Only the count of a device table can be missing, and then there is no payload to count.
    unfold RouterCommand.replyLength? at hnone hn
    cases hshape : (RouterCommand.ofCode p.command).replyShape with
    | deviceTable =>
      rw [hshape] at hnone hn
      cases hpayload : p.payload with
      | nil =>
        rw [hpayload] at hn
        obtain ⟨count, -, hcount⟩ := Option.map_eq_some_iff.mp hn
        simp at hcount
      | cons count ids =>
        rw [hpayload] at hnone
        cases hnone
    | version | scanMode | deviceSlot | status =>
      rw [hshape] at hnone
      cases hnone
  rw [← replyLength?_append kept hknown]
  exact hn

/-! ## Whole frames -/

theorem Packet.not_oversized_of_le {p : Packet} (h : p.payload.length ≤ maxPayload) :
    ¬ p.Oversized := by
  rintro ⟨-, hlong⟩
  exact Nat.not_le_of_lt hlong h

namespace ValidFrame

theorem of_layout {p : Packet} {frame : Bytes} (hlayout : frame = p.layout)
    (hsize : ¬ p.Oversized) (hdelimited : p.SelfDelimiting) : ValidFrame p.direction p frame where
  encoded := Packet.encode_eq_ok_iff.mpr ⟨hsize, hlayout⟩
  direction := rfl
  delimited := hdelimited

/-- Behind a length field the payload has to be as long as declared, and no longer than may be
sent. -/
theorem of_declared {p : Packet} {declared : UInt16} (hversion : p.version = protocolVersion)
    (hlength : p.hasLength = true) (hdeclared : declared.toNat = p.payload.length)
    (hle : declared.toNat ≤ maxPayload) :
    ValidFrame p.direction p
      (protocolVersion :: p.typeByte :: (u16 declared ++ (p.fixedBytes ++ p.payload))) := by
  apply of_layout
  · have hfield : declared = UInt16.ofNat p.payload.length := by
      have hlt := declared.toNat_lt
      apply UInt16.toNat_inj.mp
      rw [UInt16.toNat_ofNat']
      omega
    simp [Packet.layout, Packet.lengthBytes, hversion, hlength, hfield]
  · exact Packet.not_oversized_of_le (hdeclared ▸ hle)
  · refine ⟨hversion, fun r hr => ?_⟩
    rw [hr] at hlength
    cases hlength

/-- Of a kind of fixed size there is nothing to check but the version. -/
theorem of_fixed {p : Packet} (hversion : p.version = protocolVersion)
    (hlength : p.hasLength = false) (hpayload : p.payload = [])
    (hanswer : ∀ r, p ≠ .jigInfoResponse r) :
    ValidFrame p.direction p (protocolVersion :: p.typeByte :: p.fixedBytes) := by
  apply of_layout
  · simp [Packet.layout, Packet.lengthBytes, hversion, hlength, hpayload]
  · exact Packet.not_oversized_of_le (by simp [hpayload])
  · exact ⟨hversion, fun r hr => absurd hr (hanswer r)⟩

theorem frameLength_eq {d : Direction} {p : Packet} {frame : Bytes} (h : ValidFrame d p frame)
    (kept : Bytes) : frameLength d (frame ++ kept) = .ok (some frame.length) := by
  obtain ⟨hencode, rfl, hdelimited⟩ := h
  obtain ⟨hsize, rfl⟩ := Packet.encode_eq_ok_iff.mp hencode
  exact frameLength_append_ok kept (frameLength_layout hdelimited hsize)

theorem decode_eq {d : Direction} {p : Packet} {frame : Bytes} (h : ValidFrame d p frame) :
    Packet.decode d frame = .ok p := by
  rw [← h.direction]
  exact Packet.decode_encode h.encoded

end ValidFrame

section Whole

variable {type : UInt8} {body kept : Bytes}

theorem exists_validRequest
    (h : frameLength .hostToRouter (protocolVersion :: type :: (body ++ kept)) =
      .ok (some (body.length + 1 + 1))) :
    ∃ p, ValidFrame .hostToRouter p (protocolVersion :: type :: body) := by
  have h7 := seven_le_frameLength h
  simp only [frameLength, ne_eq, not_true_eq_false, if_false] at h
  split at h
  case h_1 htype =>
    obtain ⟨declared, rest, rfl, hrest, hle⟩ := declared_of_prefixedLength (by omega) h
    have h17 : 17 ≤ rest.length := by omega
    obtain ⟨p, hversion, rfl, hpayload⟩ := DownlinkRequest.exists_fields protocolVersion h17
    have hdeclared : declared.toNat = p.payload.length := by omega
    rw [← RequestType.byte_of_ofByte? htype]
    exact ⟨_, .of_declared (p := .downlinkRequest p) hversion rfl hdeclared hle⟩
  case h_2 htype =>
    simp only [Except.ok.injEq, Option.some.injEq] at h
    have h9 : body.length = 9 := by omega
    obtain ⟨p, hversion, rfl⟩ := JigInfoRequest.exists_fields protocolVersion h9
    rw [← RequestType.byte_of_ofByte? htype]
    exact ⟨_, .of_fixed (p := .jigInfoRequest p) hversion rfl rfl (by simp)⟩
  case h_3 htype =>
    simp only [Except.ok.injEq, Option.some.injEq] at h
    have h8 : body.length = 8 := by omega
    obtain ⟨p, hversion, rfl⟩ := DfuRequest.exists_fields protocolVersion h8
    rw [← RequestType.byte_of_ofByte? htype]
    exact ⟨_, .of_fixed (p := .dfuRequest p) hversion rfl rfl (by simp)⟩
  case h_4 => cases h

/-- The router's answer has no length field: its length is its command's. -/
theorem exists_validAnswer (htype : ResponseType.ofByte? type = some .jigInfo)
    (h : answerLength (protocolVersion :: type :: (body ++ kept)) = some (body.length + 1 + 1)) :
    ∃ p, ValidFrame .routerToHost p (protocolVersion :: type :: body) := by
  have h13 : 13 ≤ body.length := by
    simp only [answerLength] at h
    split at h
    · cases h
    · obtain ⟨n, -, hn⟩ := Option.map_eq_some_iff.mp h
      omega
  obtain ⟨p, hversion, hbody, hpayload⟩ := JigInfoResponse.exists_fields protocolVersion h13
  have hlen : body.length + 1 + 1 = 15 + p.payload.length := by omega
  rw [hlen, hbody] at h
  have hanswer := replyLength?_of_answerLength h
  refine ⟨.jigInfoResponse p,
    ValidFrame.of_layout (p := .jigInfoResponse p) ?_ ?_ ⟨hversion, ?_⟩⟩
  · rw [← ResponseType.byte_of_ofByte? htype, ← hversion, hbody]
    rfl
  · rintro ⟨hfield, -⟩
    cases hfield
  · intro r hr
    cases hr
    exact hanswer

theorem exists_validReply
    (h : frameLength .routerToHost (protocolVersion :: type :: (body ++ kept)) =
      .ok (some (body.length + 1 + 1))) :
    ∃ p, ValidFrame .routerToHost p (protocolVersion :: type :: body) := by
  have h7 := seven_le_frameLength h
  simp only [frameLength, ne_eq, not_true_eq_false, if_false] at h
  split at h
  case h_1 htype =>
    obtain ⟨declared, rest, rfl, hrest, hle⟩ := declared_of_prefixedLength (by omega) h
    have h17 : 17 ≤ rest.length := by omega
    obtain ⟨p, hversion, rfl, hpayload⟩ := UplinkNotification.exists_fields protocolVersion h17
    have hdeclared : declared.toNat = p.payload.length := by omega
    rw [← ResponseType.byte_of_ofByte? htype]
    exact ⟨_, .of_declared (p := .uplinkNotification p) hversion rfl hdeclared hle⟩
  case h_2 htype =>
    simp only [Except.ok.injEq, Option.some.injEq] at h
    have h18 : body.length = 18 := by omega
    obtain ⟨p, hversion, rfl⟩ := DownlinkResponse.exists_fields protocolVersion h18
    rw [← ResponseType.byte_of_ofByte? htype]
    exact ⟨_, .of_fixed (p := .downlinkResponse p) hversion rfl rfl (by simp)⟩
  case h_3 htype => exact exists_validAnswer htype (Except.ok.inj h)
  case h_4 htype =>
    simp only [Except.ok.injEq, Option.some.injEq] at h
    have h5 : body.length = 5 := by omega
    obtain ⟨p, hversion, rfl⟩ := DfuResponse.exists_fields protocolVersion h5
    rw [← ResponseType.byte_of_ofByte? htype]
    exact ⟨_, .of_fixed (p := .dfuResponse p) hversion rfl rfl (by simp)⟩
  case h_5 htype =>
    simp only [Except.ok.injEq, Option.some.injEq] at h
    have h5 : body.length = 5 := by omega
    obtain ⟨p, hversion, rfl⟩ := ErrorNotification.exists_fields protocolVersion h5
    rw [← ResponseType.byte_of_ofByte? htype]
    exact ⟨_, .of_fixed (p := .errorNotification p) hversion rfl rfl (by simp)⟩
  case h_6 => cases h

end Whole

/-- **Bytes that are as long as their front announces are a valid frame.** -/
theorem exists_validFrame {d : Direction} {raw kept : Bytes}
    (h : frameLength d (raw ++ kept) = .ok (some raw.length)) : ∃ p, ValidFrame d p raw := by
  have h7 := seven_le_frameLength h
  obtain ⟨v, raw, rfl, -⟩ := exists_u8 raw (by omega)
  simp only [List.length_cons] at h7
  obtain ⟨type, body, rfl, -⟩ := exists_u8 raw (by omega)
  obtain rfl : v = protocolVersion := version_of_frameLength h
  cases d with
  | hostToRouter => exact exists_validRequest h
  | routerToHost => exact exists_validReply h

theorem frameLength_eq_length_iff {d : Direction} {raw kept : Bytes} :
    frameLength d (raw ++ kept) = .ok (some raw.length) ↔ ∃ p, ValidFrame d p raw := by
  constructor
  · exact exists_validFrame
  · rintro ⟨p, h⟩
    exact h.frameLength_eq kept

/-- With nothing behind them. -/
theorem frameLength_self_iff {d : Direction} {raw : Bytes} :
    frameLength d raw = .ok (some raw.length) ↔ ∃ p, ValidFrame d p raw := by
  have h := @frameLength_eq_length_iff d raw []
  rwa [List.append_nil] at h

end SensorLink
