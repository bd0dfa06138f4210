import SensorLink.Packet.Basic

/-!
# Packets as frames

A frame is the protocol version, a type byte, and the fields of its packet in a fixed order. The
type byte is read in the direction of the frame: `0x00` from the host asks something of a module,
`0x00` from the router is something that a module says.

Two kinds of frame carry a payload with a length field, one carries whatever is left, and the rest
have a fixed size. `Packet.decode` takes exactly one frame and looks at every byte of it.

Each kind has a writer of its fields and a reader, tied together by one equivalence
(`read_eq_some_iff`): the reader answers exactly when the bytes are what the writer would have
written. `Proofs/Packet/Layout` joins these to the round trips of whole frames.
-/

namespace SensorLink

open Wire

/-- The kinds of frame that the host sends. -/
inductive RequestType where
  | downlink
  | jigInfo
  | dfu
  deriving DecidableEq, Repr

namespace RequestType

/-- The type byte. -/
def byte : RequestType → UInt8
  | .downlink => 0x00
  | .jigInfo => 0x01
  | .dfu => 0x03

/-- The kind with a given type byte. -/
def ofByte? : UInt8 → Option RequestType
  | 0x00 => some .downlink
  | 0x01 => some .jigInfo
  | 0x03 => some .dfu
  | _ => none

@[simp] theorem ofByte?_byte (t : RequestType) : ofByte? t.byte = some t := by cases t <;> rfl

/-- No two request types share their byte, so a byte that is taken for one is that type's. -/
theorem byte_of_ofByte? {b : UInt8} {t : RequestType} (h : ofByte? b = some t) : t.byte = b := by
  unfold ofByte? at h
  split at h <;> cases h <;> rfl

end RequestType

/-- The kinds of frame that the router sends. -/
inductive ResponseType where
  | uplink
  | downlinkResponse
  | jigInfo
  | dfu
  | errorNotification
  deriving DecidableEq, Repr

namespace ResponseType

/-- The type byte. -/
def byte : ResponseType → UInt8
  | .uplink => 0x00
  | .downlinkResponse => 0x01
  | .jigInfo => 0x02
  | .dfu => 0x03
  | .errorNotification => 0xFF

/-- The kind with a given type byte. -/
def ofByte? : UInt8 → Option ResponseType
  | 0x00 => some .uplink
  | 0x01 => some .downlinkResponse
  | 0x02 => some .jigInfo
  | 0x03 => some .dfu
  | 0xFF => some .errorNotification
  | _ => none

@[simp] theorem ofByte?_byte (t : ResponseType) : ofByte? t.byte = some t := by cases t <;> rfl

/-- The same of the types that the router sends. -/
theorem byte_of_ofByte? {b : UInt8} {t : ResponseType} (h : ofByte? b = some t) : t.byte = b := by
  unfold ofByte? at h
  split at h <;> cases h <;> rfl

end ResponseType

/-! ## Length fields -/

/-- The length field of a payload, if the payload may be sent. -/
def lengthField (payload : Bytes) : Except Malformed UInt16 :=
  if maxPayload < payload.length then .error (.payloadTooLong payload.length)
  else .ok (UInt16.ofNat payload.length)

/-- Checks a length field against the payload that is there. -/
def checkLength (declared : UInt16) (payload : Bytes) : Except Malformed Unit :=
  if payload.length < declared.toNat then .error (.payloadCutOff declared.toNat payload.length)
  else if declared.toNat < payload.length then .error (.trailingBytes declared.toNat payload.length)
  else .ok ()

/-- The length field is believed only if the payload has exactly that many bytes, no fewer and no
more. -/
theorem checkLength_eq_ok_iff {declared : UInt16} {payload : Bytes} :
    checkLength declared payload = .ok () ↔ declared.toNat = payload.length := by
  unfold checkLength
  split
  · simp only [reduceCtorEq, false_iff]; omega
  split
  · simp only [reduceCtorEq, false_iff]; omega
  · simp only [true_iff]; omega

/-! ## The fields of each kind, after the type byte -/

/-- The fixed fields behind the length field. -/
def DownlinkRequest.fields (p : DownlinkRequest) : Bytes :=
  u32 p.unixTime ++ u64 p.device ++ u16 p.sensor ++ p.command :: u16 p.order

/-- Reads the length field and the request around whatever payload there is. -/
def DownlinkRequest.read (version : UInt8) (body : Bytes) : Option (UInt16 × DownlinkRequest) := do
  let (declared, body) ← readU16 body
  let (unixTime, body) ← readU32 body
  let (device, body) ← readU64 body
  let (sensor, body) ← readU16 body
  let (command, body) ← readU8 body
  let (order, payload) ← readU16 body
  pure (declared, { version, unixTime, device, sensor, command, order, payload })

/-- The fields of a downlink response. -/
def DownlinkResponse.fields (p : DownlinkResponse) : Bytes :=
  u32 p.unixTime ++ u64 p.device ++ u16 p.sensor ++ u16 p.order ++ [p.command, p.result]

/-- Reads a downlink response and what follows it. -/
def DownlinkResponse.read (version : UInt8) (body : Bytes) : Option (DownlinkResponse × Bytes) := do
  let (unixTime, body) ← readU32 body
  let (device, body) ← readU64 body
  let (sensor, body) ← readU16 body
  let (order, body) ← readU16 body
  let (command, body) ← readU8 body
  let (result, rest) ← readU8 body
  pure ({ version, unixTime, device, sensor, order, command, result }, rest)

/-- The fixed fields behind the length field. -/
def UplinkNotification.fields (p : UplinkNotification) : Bytes :=
  u32 p.unixTime ++ u64 p.device ++ u16 p.sensor ++ p.rssi.toUInt8 :: u16 p.reserved

/-- Reads the length field and the notification around whatever payload there is. -/
def UplinkNotification.read (version : UInt8) (body : Bytes) :
    Option (UInt16 × UplinkNotification) := do
  let (declared, body) ← readU16 body
  let (unixTime, body) ← readU32 body
  let (device, body) ← readU64 body
  let (sensor, body) ← readU16 body
  let (rssi, body) ← readU8 body
  let (reserved, payload) ← readU16 body
  pure (declared, { version, unixTime, device, sensor, rssi := rssi.toInt8, reserved, payload })

/-- The fields of a request to the router. -/
def JigInfoRequest.fields (p : JigInfoRequest) : Bytes :=
  p.command :: (u32 p.localTime ++ u32 p.unixTime)

/-- Reads a request to the router and what follows it. -/
def JigInfoRequest.read (version : UInt8) (body : Bytes) : Option (JigInfoRequest × Bytes) := do
  let (command, body) ← readU8 body
  let (localTime, body) ← readU32 body
  let (unixTime, rest) ← readU32 body
  pure ({ version, command, localTime, unixTime }, rest)

/-- The fixed fields of a router's answer. -/
def JigInfoResponse.fields (p : JigInfoResponse) : Bytes :=
  u32 p.unixTime ++ p.command :: u64 p.router

/-- Reads a router's answer; everything after its fixed fields is payload. -/
def JigInfoResponse.read (version : UInt8) (body : Bytes) : Option JigInfoResponse := do
  let (unixTime, body) ← readU32 body
  let (command, body) ← readU8 body
  let (router, payload) ← readU64 body
  pure { version, unixTime, command, router, payload }

/-- The fields of a firmware request. -/
def DfuRequest.fields (p : DfuRequest) : Bytes := u32 p.unixTime ++ u32 p.totalLength

/-- Reads a firmware request and what follows it. -/
def DfuRequest.read (version : UInt8) (body : Bytes) : Option (DfuRequest × Bytes) := do
  let (unixTime, body) ← readU32 body
  let (totalLength, rest) ← readU32 body
  pure ({ version, unixTime, totalLength }, rest)

/-- The fields of a firmware answer. -/
def DfuResponse.fields (p : DfuResponse) : Bytes := u32 p.unixTime ++ [p.result]

/-- Reads a firmware answer and what follows it. -/
def DfuResponse.read (version : UInt8) (body : Bytes) : Option (DfuResponse × Bytes) := do
  let (unixTime, body) ← readU32 body
  let (result, rest) ← readU8 body
  pure ({ version, unixTime, result }, rest)

/-- The fields of an error notification. -/
def ErrorNotification.fields (p : ErrorNotification) : Bytes := u32 p.unixTime ++ [p.reason]

/-- Reads an error notification and what follows it. -/
def ErrorNotification.read (version : UInt8) (body : Bytes) :
    Option (ErrorNotification × Bytes) := do
  let (unixTime, body) ← readU32 body
  let (reason, rest) ← readU8 body
  pure ({ version, unixTime, reason }, rest)

/-- Each `read` below is the inverse of its `fields`: a body is read as the packet whose fields it
consists of. Here the length field is handed out as it stands, for `checkLength` to judge. -/
theorem DownlinkRequest.read_eq_some_iff {v : UInt8} {body : Bytes} {declared : UInt16}
    {p : DownlinkRequest} :
    read v body = some (declared, p)
      ↔ p.version = v ∧ body = u16 declared ++ p.fields ++ p.payload := by
  obtain ⟨version, unixTime, device, sensor, command, order, payload⟩ := p
  simp only [read, fields, Option.bind_eq_bind, Option.bind_eq_some_iff, Prod.exists,
    readU16_eq_some_iff, readU32_eq_some_iff, readU64_eq_some_iff, readU8_eq_some_iff,
    Option.pure_def, Option.some.injEq, Prod.mk.injEq, DownlinkRequest.mk.injEq]
  constructor
  · rintro ⟨_, _, rfl, _, _, rfl, _, _, rfl, _, _, rfl, _, _, rfl, _, _, rfl, rfl, rfl, rfl, rfl,
      rfl, rfl, rfl, rfl⟩
    simp
  · rintro ⟨rfl, rfl⟩
    exact ⟨_, _, by simp only [List.append_assoc]; rfl, _, _, rfl, _, _, rfl, _, _, rfl, _, _,
      List.cons_append, _, _, rfl, by simp⟩

theorem UplinkNotification.read_eq_some_iff {v : UInt8} {body : Bytes} {declared : UInt16}
    {p : UplinkNotification} :
    read v body = some (declared, p)
      ↔ p.version = v ∧ body = u16 declared ++ p.fields ++ p.payload := by
  obtain ⟨version, unixTime, device, sensor, rssi, reserved, payload⟩ := p
  simp only [read, fields, Option.bind_eq_bind, Option.bind_eq_some_iff, Prod.exists,
    readU16_eq_some_iff, readU32_eq_some_iff, readU64_eq_some_iff, readU8_eq_some_iff,
    Option.pure_def, Option.some.injEq, Prod.mk.injEq, UplinkNotification.mk.injEq]
  constructor
  · rintro ⟨_, _, rfl, _, _, rfl, _, _, rfl, _, _, rfl, _, _, rfl, _, _, rfl, rfl, rfl, rfl, rfl,
      rfl, rfl, rfl, rfl⟩
    simp
  · rintro ⟨rfl, rfl⟩
    exact ⟨_, _, by simp only [List.append_assoc]; rfl, _, _, rfl, _, _, rfl, _, _, rfl, _, _,
      List.cons_append, _, _, rfl, by simp⟩

theorem DownlinkResponse.read_eq_some_iff {v : UInt8} {body rest : Bytes} {p : DownlinkResponse} :
    read v body = some (p, rest) ↔ p.version = v ∧ body = p.fields ++ rest := by
  obtain ⟨version, unixTime, device, sensor, order, command, result⟩ := p
  simp only [read, fields, Option.bind_eq_bind, Option.bind_eq_some_iff, Prod.exists,
    readU16_eq_some_iff, readU32_eq_some_iff, readU64_eq_some_iff, readU8_eq_some_iff,
    Option.pure_def, Option.some.injEq, Prod.mk.injEq, DownlinkResponse.mk.injEq]
  constructor
  · rintro ⟨_, _, rfl, _, _, rfl, _, _, rfl, _, _, rfl, _, _, rfl, _, _, rfl, ⟨rfl, rfl, rfl, rfl,
      rfl, rfl, rfl⟩, rfl⟩
    simp
  · rintro ⟨rfl, rfl⟩
    exact ⟨_, _, by simp only [List.append_assoc]; rfl, _, _, rfl, _, _, rfl, _, _, rfl, _, _, rfl,
      _, _, rfl, by simp⟩

theorem JigInfoRequest.read_eq_some_iff {v : UInt8} {body rest : Bytes} {p : JigInfoRequest} :
    read v body = some (p, rest) ↔ p.version = v ∧ body = p.fields ++ rest := by
  obtain ⟨version, command, localTime, unixTime⟩ := p
  simp only [read, fields, Option.bind_eq_bind, Option.bind_eq_some_iff, Prod.exists,
    readU32_eq_some_iff, readU8_eq_some_iff,
    Option.pure_def, Option.some.injEq, Prod.mk.injEq, JigInfoRequest.mk.injEq]
  constructor
  · rintro ⟨_, _, rfl, _, _, rfl, _, _, rfl, ⟨rfl, rfl, rfl, rfl⟩, rfl⟩
    simp
  · rintro ⟨rfl, rfl⟩
    exact ⟨_, _, by simp only [List.cons_append, List.append_assoc]; rfl, _, _, rfl, _, _, rfl,
      by simp⟩

/-- An answer has no length field. Its payload is whatever is left, so that reading it never leaves
a rest. -/
theorem JigInfoResponse.read_eq_some_iff {v : UInt8} {body : Bytes} {p : JigInfoResponse} :
    read v body = some p ↔ p.version = v ∧ body = p.fields ++ p.payload := by
  obtain ⟨version, unixTime, command, router, payload⟩ := p
  simp only [read, fields, Option.bind_eq_bind, Option.bind_eq_some_iff, Prod.exists,
    readU32_eq_some_iff, readU64_eq_some_iff, readU8_eq_some_iff,
    Option.pure_def, Option.some.injEq, JigInfoResponse.mk.injEq]
  constructor
  · rintro ⟨_, _, rfl, _, _, rfl, _, _, rfl, rfl, rfl, rfl, rfl, rfl⟩
    simp
  · rintro ⟨rfl, rfl⟩
    exact ⟨_, _, by simp only [List.append_assoc]; rfl, _, _, List.cons_append, _, _, rfl, by simp⟩

theorem DfuRequest.read_eq_some_iff {v : UInt8} {body rest : Bytes} {p : DfuRequest} :
    read v body = some (p, rest) ↔ p.version = v ∧ body = p.fields ++ rest := by
  obtain ⟨version, unixTime, totalLength⟩ := p
  simp only [read, fields, Option.bind_eq_bind, Option.bind_eq_some_iff, Prod.exists,
    readU32_eq_some_iff, Option.pure_def, Option.some.injEq, Prod.mk.injEq, DfuRequest.mk.injEq]
  constructor
  · rintro ⟨_, _, rfl, _, _, rfl, ⟨rfl, rfl, rfl⟩, rfl⟩
    simp
  · rintro ⟨rfl, rfl⟩
    exact ⟨_, _, by simp only [List.append_assoc]; rfl, _, _, rfl, by simp⟩

theorem DfuResponse.read_eq_some_iff {v : UInt8} {body rest : Bytes} {p : DfuResponse} :
    read v body = some (p, rest) ↔ p.version = v ∧ body = p.fields ++ rest := by
  obtain ⟨version, unixTime, result⟩ := p
  simp only [read, fields, Option.bind_eq_bind, Option.bind_eq_some_iff, Prod.exists,
    readU32_eq_some_iff, readU8_eq_some_iff, Option.pure_def, Option.some.injEq, Prod.mk.injEq,
    DfuResponse.mk.injEq]
  constructor
  · rintro ⟨_, _, rfl, _, _, rfl, ⟨rfl, rfl, rfl⟩, rfl⟩
    simp
  · rintro ⟨rfl, rfl⟩
    exact ⟨_, _, by simp only [List.append_assoc]; rfl, _, _, rfl, by simp⟩

theorem ErrorNotification.read_eq_some_iff {v : UInt8} {body rest : Bytes} {p : ErrorNotification} :
    read v body = some (p, rest) ↔ p.version = v ∧ body = p.fields ++ rest := by
  obtain ⟨version, unixTime, reason⟩ := p
  simp only [read, fields, Option.bind_eq_bind, Option.bind_eq_some_iff, Prod.exists,
    readU32_eq_some_iff, readU8_eq_some_iff, Option.pure_def, Option.some.injEq, Prod.mk.injEq,
    ErrorNotification.mk.injEq]
  constructor
  · rintro ⟨_, _, rfl, _, _, rfl, ⟨rfl, rfl, rfl⟩, rfl⟩
    simp
  · rintro ⟨rfl, rfl⟩
    exact ⟨_, _, by simp only [List.append_assoc]; rfl, _, _, rfl, by simp⟩

/-! ## Whole frames -/

namespace Packet

/-- The size of a kind of frame, less its payload. -/
def frameSize : FrameKind → Nat
  | .frame => 2
  | .downlinkRequest => 21
  | .downlinkResponse => 20
  | .uplinkNotification => 21
  | .jigInfoRequest => 11
  | .jigInfoResponse => 15
  | .dfuRequest => 10
  | .dfuResponse => 7
  | .errorNotification => 7

/-- A frame of fixed size: the packet that was read, if nothing follows it. -/
def ofFixed (kind : FrameKind) (wrap : α → Packet) (body : Bytes) :
    Option (α × Bytes) → Except Malformed Packet
  | some (p, []) => .ok (wrap p)
  | _ => .error (.wrongSize kind (frameSize kind) (body.length + 2))

/-- Decodes exactly one frame sent in a direction. -/
def decode (direction : Direction) : Bytes → Except Malformed Packet
  | version :: type :: body =>
    match direction with
    | .hostToRouter =>
      match RequestType.ofByte? type with
      | some .downlink =>
        match DownlinkRequest.read version body with
        | none => .error (.tooShort .downlinkRequest 21 (body.length + 2))
        | some (declared, p) => (checkLength declared p.payload).map fun _ => .downlinkRequest p
      | some .jigInfo =>
        ofFixed .jigInfoRequest .jigInfoRequest body (JigInfoRequest.read version body)
      | some .dfu => ofFixed .dfuRequest .dfuRequest body (DfuRequest.read version body)
      | none => .error (.unknownType type direction)
    | .routerToHost =>
      match ResponseType.ofByte? type with
      | some .uplink =>
        match UplinkNotification.read version body with
        | none => .error (.tooShort .uplinkNotification 21 (body.length + 2))
        | some (declared, p) => (checkLength declared p.payload).map fun _ => .uplinkNotification p
      | some .downlinkResponse =>
        ofFixed .downlinkResponse .downlinkResponse body (DownlinkResponse.read version body)
      | some .jigInfo =>
        match JigInfoResponse.read version body with
        | none => .error (.tooShort .jigInfoResponse 15 (body.length + 2))
        -- There is no length to check: whatever follows the fields is payload.
        | some p => .ok (.jigInfoResponse p)
      | some .dfu => ofFixed .dfuResponse .dfuResponse body (DfuResponse.read version body)
      | some .errorNotification =>
        ofFixed .errorNotification .errorNotification body (ErrorNotification.read version body)
      | none => .error (.unknownType type direction)
  | short => .error (.tooShort .frame 2 short.length)

/-- The frame of a packet; only too large a payload has none. -/
def encode : Packet → Except Malformed Bytes
  | .downlinkRequest p =>
    (lengthField p.payload).map fun declared =>
      p.version :: RequestType.downlink.byte :: (u16 declared ++ p.fields ++ p.payload)
  | .uplinkNotification p =>
    (lengthField p.payload).map fun declared =>
      p.version :: ResponseType.uplink.byte :: (u16 declared ++ p.fields ++ p.payload)
  | .downlinkResponse p => .ok (p.version :: ResponseType.downlinkResponse.byte :: p.fields)
  | .jigInfoRequest p => .ok (p.version :: RequestType.jigInfo.byte :: p.fields)
  | .jigInfoResponse p => .ok (p.version :: ResponseType.jigInfo.byte :: (p.fields ++ p.payload))
  | .dfuRequest p => .ok (p.version :: RequestType.dfu.byte :: p.fields)
  | .dfuResponse p => .ok (p.version :: ResponseType.dfu.byte :: p.fields)
  | .errorNotification p => .ok (p.version :: ResponseType.errorNotification.byte :: p.fields)

/-- A packet without payload has to end where its body does. -/
theorem ofFixed_eq_ok_iff {kind : FrameKind} {wrap : α → Packet} {body : Bytes}
    {found : Option (α × Bytes)} {q : Packet} :
    ofFixed kind wrap body found = .ok q ↔ ∃ p, found = some (p, []) ∧ q = wrap p := by
  unfold ofFixed
  split
  · simp [eq_comm]
  · rename_i h
    simp only [reduceCtorEq, false_iff, not_exists, not_and]
    rintro p rfl
    exact absurd rfl (h p)

end Packet
end SensorLink
