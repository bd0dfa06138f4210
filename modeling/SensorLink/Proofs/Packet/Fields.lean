import SensorLink.Packet.Codec

/-!
# Bytes enough for the fields

A field of fixed width can hold anything, so nothing but their number decides whether some bytes are
the fields of a packet: each kind has them as soon as there are enough (`exists_fields`). What is
left behind the last of them is the payload. A kind without a payload has nothing to put there, and
takes exactly as many bytes as its fields have.

A packet of any version can be read this way. The fields do not depend on it.
-/

namespace SensorLink

open Wire

/-! ## Fields in front of a payload -/

/-- Seventeen bytes are the fixed fields of a request, and every pattern of them is some request: no
field refuses a value. What is left of the bytes is its payload. -/
theorem DownlinkRequest.exists_fields (v : UInt8) {body : Bytes} (h : 17 ≤ body.length) :
    ∃ p, p.version = v ∧ body = DownlinkRequest.fields p ++ p.payload ∧
      p.payload.length + 17 = body.length := by
  obtain ⟨unixTime, body, rfl, h₁⟩ := exists_u32 body (by omega)
  obtain ⟨device, body, rfl, h₂⟩ := exists_u64 body (by omega)
  obtain ⟨sensor, body, rfl, h₃⟩ := exists_u16 body (by omega)
  obtain ⟨command, body, rfl, h₄⟩ := exists_u8 body (by omega)
  obtain ⟨order, payload, rfl, h₅⟩ := exists_u16 body (by omega)
  refine ⟨⟨v, unixTime, device, sensor, command, order, payload⟩, rfl, ?_, ?_⟩
  · simp [fields]
  · show payload.length + 17 = _
    omega

/-- Of a notification as of a request: the fixed fields take what they need and refuse nothing. -/
theorem UplinkNotification.exists_fields (v : UInt8) {body : Bytes} (h : 17 ≤ body.length) :
    ∃ p, p.version = v ∧ body = UplinkNotification.fields p ++ p.payload ∧
      p.payload.length + 17 = body.length := by
  obtain ⟨unixTime, body, rfl, h₁⟩ := exists_u32 body (by omega)
  obtain ⟨device, body, rfl, h₂⟩ := exists_u64 body (by omega)
  obtain ⟨sensor, body, rfl, h₃⟩ := exists_u16 body (by omega)
  obtain ⟨rssi, body, rfl, h₄⟩ := exists_u8 body (by omega)
  obtain ⟨reserved, payload, rfl, h₅⟩ := exists_u16 body (by omega)
  refine ⟨⟨v, unixTime, device, sensor, rssi.toInt8, reserved, payload⟩, rfl, ?_, ?_⟩
  · simp [fields]
  · show payload.length + 17 = _
    omega

theorem JigInfoResponse.exists_fields (v : UInt8) {body : Bytes} (h : 13 ≤ body.length) :
    ∃ p, p.version = v ∧ body = JigInfoResponse.fields p ++ p.payload ∧
      p.payload.length + 13 = body.length := by
  obtain ⟨unixTime, body, rfl, h₁⟩ := exists_u32 body (by omega)
  obtain ⟨command, body, rfl, h₂⟩ := exists_u8 body (by omega)
  obtain ⟨router, payload, rfl, h₃⟩ := exists_u64 body (by omega)
  refine ⟨⟨v, unixTime, command, router, payload⟩, rfl, ?_, ?_⟩
  · simp [fields]
  · show payload.length + 13 = _
    omega

/-! ## Fields alone -/

/-- A packet without a payload has one length, and at that length all bytes are fields. -/
theorem DownlinkResponse.exists_fields (v : UInt8) {body : Bytes} (h : body.length = 18) :
    ∃ p, p.version = v ∧ body = DownlinkResponse.fields p := by
  obtain ⟨unixTime, body, rfl, h₁⟩ := exists_u32 body (by omega)
  obtain ⟨device, body, rfl, h₂⟩ := exists_u64 body (by omega)
  obtain ⟨sensor, body, rfl, h₃⟩ := exists_u16 body (by omega)
  obtain ⟨order, body, rfl, h₄⟩ := exists_u16 body (by omega)
  obtain ⟨command, body, rfl, h₅⟩ := exists_u8 body (by omega)
  obtain ⟨result, body, rfl, h₆⟩ := exists_u8 body (by omega)
  have hend : body = [] := List.eq_nil_of_length_eq_zero (by omega)
  exact ⟨⟨v, unixTime, device, sensor, order, command, result⟩, rfl, by simp [fields, hend]⟩

theorem JigInfoRequest.exists_fields (v : UInt8) {body : Bytes} (h : body.length = 9) :
    ∃ p, p.version = v ∧ body = JigInfoRequest.fields p := by
  obtain ⟨command, body, rfl, h₁⟩ := exists_u8 body (by omega)
  obtain ⟨localTime, body, rfl, h₂⟩ := exists_u32 body (by omega)
  obtain ⟨unixTime, body, rfl, h₃⟩ := exists_u32 body (by omega)
  have hend : body = [] := List.eq_nil_of_length_eq_zero (by omega)
  exact ⟨⟨v, command, localTime, unixTime⟩, rfl, by simp [fields, hend]⟩

theorem DfuRequest.exists_fields (v : UInt8) {body : Bytes} (h : body.length = 8) :
    ∃ p, p.version = v ∧ body = DfuRequest.fields p := by
  obtain ⟨unixTime, body, rfl, h₁⟩ := exists_u32 body (by omega)
  obtain ⟨totalLength, body, rfl, h₂⟩ := exists_u32 body (by omega)
  have hend : body = [] := List.eq_nil_of_length_eq_zero (by omega)
  exact ⟨⟨v, unixTime, totalLength⟩, rfl, by simp [fields, hend]⟩

theorem DfuResponse.exists_fields (v : UInt8) {body : Bytes} (h : body.length = 5) :
    ∃ p, p.version = v ∧ body = DfuResponse.fields p := by
  obtain ⟨unixTime, body, rfl, h₁⟩ := exists_u32 body (by omega)
  obtain ⟨result, body, rfl, h₂⟩ := exists_u8 body (by omega)
  have hend : body = [] := List.eq_nil_of_length_eq_zero (by omega)
  exact ⟨⟨v, unixTime, result⟩, rfl, by simp [fields, hend]⟩

/-- A notice of an error carries its reason as a bare byte, so reasons that have no name are read
too. -/
theorem ErrorNotification.exists_fields (v : UInt8) {body : Bytes} (h : body.length = 5) :
    ∃ p, p.version = v ∧ body = ErrorNotification.fields p := by
  obtain ⟨unixTime, body, rfl, h₁⟩ := exists_u32 body (by omega)
  obtain ⟨reason, body, rfl, h₂⟩ := exists_u8 body (by omega)
  have hend : body = [] := List.eq_nil_of_length_eq_zero (by omega)
  exact ⟨⟨v, unixTime, reason⟩, rfl, by simp [fields, hend]⟩

end SensorLink
