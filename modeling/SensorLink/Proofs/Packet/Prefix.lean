import SensorLink.Packet.Length
import SensorLink.Proofs.Packet.Layout

/-!
# The first bytes decide — `frameLength` under extension

A framer asks `frameLength` about whatever has arrived so far, and acts on the answer before it
has seen the rest. That is only sound because of one fact, and everything about cutting a stream
into chunks rests on it:

> **an answer other than "not known yet" does not change when more bytes arrive**
> (`frameLength_append`).

It holds for errors as well as for lengths, because every branch of `frameLength` looks at a fixed
number of leading bytes and waits until it has them. Beside it stand the two facts that tie the
length to its neighbours: a place that `plausibleStart` passes over is a place where `frameLength`
fails, and the frame of a packet has the length that its first bytes announce.
-/

namespace SensorLink

open Wire

/-! ## Decided stays decided -/

/-- A length that can be read is in the bytes that there are. -/
theorem prefixedLength_append {header : Nat} {front : Bytes} (more : Bytes)
    (h : prefixedLength header front ≠ .ok none) :
    prefixedLength header (front ++ more) = prefixedLength header front := by
  match front with
  | _ :: _ :: _ :: _ :: _ => rfl
  | [] | [_] | [_, _] | [_, _, _] => exact absurd rfl h

/-- Only a device table takes its length from its payload, and there from the first byte alone. -/
theorem replyLength?_append {code : UInt8} {payload : Bytes} (more : Bytes)
    (h : RouterCommand.replyLength? code payload ≠ none) :
    RouterCommand.replyLength? code (payload ++ more) =
      RouterCommand.replyLength? code payload := by
  unfold RouterCommand.replyLength? at h ⊢
  cases hshape : (RouterCommand.ofCode code).replyShape with
  | deviceTable =>
    cases payload with
    | nil => rw [hshape] at h; exact absurd rfl h
    | cons _ _ => rfl
  | version | scanMode | deviceSlot | status => rfl

theorem JigInfoResponse.read_append {v : UInt8} {body : Bytes} {p : JigInfoResponse} (more : Bytes)
    (h : read v body = some p) :
    read v (body ++ more) = some { p with payload := p.payload ++ more } := by
  obtain ⟨hv, rfl⟩ := read_eq_some_iff.mp h
  rw [List.append_assoc]
  exact read_eq_some_iff.mpr ⟨hv, rfl⟩

/-- Where the length of an answer comes from its command, the command has to be there first. -/
theorem answerLength_append {v type : UInt8} {body : Bytes} (more : Bytes)
    (h : answerLength (v :: type :: body) ≠ none) :
    answerLength (v :: type :: (body ++ more)) = answerLength (v :: type :: body) := by
  simp only [answerLength, List.drop_succ_cons, List.drop_zero] at h ⊢
  cases hread : JigInfoResponse.read 0 body with
  | none => rw [hread] at h; exact absurd rfl h
  | some answer =>
    rw [hread] at h
    rw [JigInfoResponse.read_append more hread]
    simp only [ne_eq, Option.map_eq_none_iff] at h ⊢
    rw [replyLength?_append more h]

theorem frameLength_cons_of_ne {d : Direction} {v : UInt8} (rest : Bytes)
    (h : v ≠ protocolVersion) : frameLength d (v :: rest) = .error (.badVersion v) := by
  unfold frameLength
  exact if_pos h

/-- Any answer but an error comes from the version that is spoken. -/
theorem version_of_frameLength {d : Direction} {v : UInt8} {rest : Bytes} {known : Option Nat}
    (h : frameLength d (v :: rest) = .ok known) : v = protocolVersion := by
  apply Decidable.byContradiction
  intro hne
  rw [frameLength_cons_of_ne rest hne] at h
  cases h

/-- **More bytes do not change what has been said of the length.** It is said as soon as it can be,
and from then on it stands. -/
theorem frameLength_append {d : Direction} {front : Bytes} (more : Bytes)
    (h : frameLength d front ≠ .ok none) :
    frameLength d (front ++ more) = frameLength d front := by
  match front with
  | [] => exact absurd rfl h
  | v :: rest =>
    by_cases hv : v = protocolVersion
    case neg => rw [List.cons_append, frameLength_cons_of_ne _ hv, frameLength_cons_of_ne _ hv]
    subst hv
    match rest with
    | [] => exact absurd rfl h
    | type :: body =>
      -- The version and the type are there; what is left is one helper per kind of frame.
      simp only [frameLength, ne_eq, not_true_eq_false, if_false, List.cons_append] at h ⊢
      cases d with
      | hostToRouter =>
        simp only at h ⊢
        split
        · exact prefixedLength_append more (by simpa [*] using h)
        all_goals rfl
      | routerToHost =>
        simp only at h ⊢
        split
        · exact prefixedLength_append more (by simpa [*] using h)
        · rfl
        · rw [answerLength_append more (by simpa [*] using h)]
        all_goals rfl

theorem frameLength_append_ok {d : Direction} {front : Bytes} {n : Nat} (more : Bytes)
    (h : frameLength d front = .ok (some n)) : frameLength d (front ++ more) = .ok (some n) := by
  rw [frameLength_append more (by simp [h]), h]

theorem frameLength_append_error {d : Direction} {front : Bytes} {cause : Malformed}
    (more : Bytes) (h : frameLength d front = .error cause) :
    frameLength d (front ++ more) = .error cause := by
  rw [frameLength_append more (by simp [h]), h]

/-! ## A place that is passed over is a place where no frame starts -/

/-- The converse fails, and only for an announced payload that is too large: such a start is
plausible and has no length. -/
theorem frameLength_of_not_plausible {d : Direction} {b : UInt8} {rest : Bytes}
    (h : plausibleStart d (b :: rest) = false) :
    ∃ cause, frameLength d (b :: rest) = .error cause := by
  by_cases hv : b = protocolVersion
  case neg => exact ⟨_, frameLength_cons_of_ne rest hv⟩
  subst hv
  match rest with
  | [] => simp [plausibleStart] at h
  | type :: body =>
    simp only [plausibleStart, decide_true, Bool.true_and] at h
    cases d with
    | hostToRouter =>
      simp only [knownType, Option.isSome_eq_false_iff, Option.isNone_iff_eq_none] at h
      exact ⟨.unknownType type .hostToRouter, by simp [frameLength, h]⟩
    | routerToHost =>
      simp only [knownType, Option.isSome_eq_false_iff, Option.isNone_iff_eq_none] at h
      exact ⟨.unknownType type .routerToHost, by simp [frameLength, h]⟩

/-! ## A frame has the length that it announces -/

theorem prefixedLength_field (header : Nat) (v type : UInt8) (declared : UInt16) (rest : Bytes) :
    prefixedLength header (v :: type :: (u16 declared ++ rest)) =
      if maxPayload < declared.toNat then .error (.announcesTooMuch declared.toNat)
      else .ok (some (header + declared.toNat)) := by
  have hword : leValue (u16 declared) = declared.toNat := by
    have hlt := declared.toNat_lt
    rw [u16, leValue_leBytes]
    omega
  simp only [u16, leBytes, List.cons_append, List.nil_append, prefixedLength] at hword ⊢
  rw [hword]

theorem prefixedLength_u16 (header : Nat) (v type : UInt8) {n : Nat} (rest : Bytes)
    (h : n ≤ maxPayload) :
    prefixedLength header (v :: type :: (u16 (UInt16.ofNat n) ++ rest)) =
      .ok (some (header + n)) := by
  have hn : (UInt16.ofNat n).toNat = n := by
    unfold maxPayload at h
    rw [UInt16.toNat_ofNat']
    omega
  rw [prefixedLength_field, hn, if_neg (Nat.not_lt_of_le h)]

/-- What a receiver has to be able to rely on to find the end of a packet's frame: the version,
and of an answer, which has no length field, a payload as long as its command implies. -/
structure Packet.SelfDelimiting (p : Packet) : Prop where
  version : p.version = protocolVersion
  answer : ∀ r, p = .jigInfoResponse r →
    RouterCommand.replyLength? r.command r.payload = some r.payload.length

theorem frameLength_layout {p : Packet} (h : p.SelfDelimiting) (hsize : ¬ p.Oversized) :
    frameLength p.direction p.layout = .ok (some p.layout.length) := by
  rw [Packet.length_layout]
  have hversion := h.version
  cases p with
  | downlinkRequest p | uplinkNotification p =>
    have hle : p.payload.length ≤ maxPayload :=
      Nat.le_of_not_lt fun hlt => hsize ⟨rfl, hlt⟩
    simp only [Packet.version] at hversion
    simpa [Packet.layout, Packet.version, hversion, frameLength, Packet.direction, Packet.typeByte,
      Packet.lengthBytes, Packet.hasLength, Packet.fixedBytes, Packet.payload, Packet.frameKind,
      Packet.frameSize] using prefixedLength_u16 21 _ _ _ hle
  | jigInfoResponse p =>
    -- The length is taken from a header read under no version at all; only the rest of it counts.
    have hread : JigInfoResponse.read 0 (p.fields ++ p.payload) = some { p with version := 0 } :=
      JigInfoResponse.read_eq_some_iff.mpr ⟨rfl, rfl⟩
    have hanswer := h.answer p rfl
    simp only [Packet.version] at hversion
    simp [Packet.layout, Packet.version, hversion, frameLength, Packet.direction, Packet.typeByte,
      Packet.lengthBytes, Packet.hasLength, Packet.fixedBytes, Packet.payload, answerLength, hread,
      hanswer, Packet.frameKind, Packet.frameSize]
  | downlinkResponse p | jigInfoRequest p | dfuRequest p | dfuResponse p | errorNotification p =>
    simp only [Packet.version] at hversion
    simp [Packet.layout, Packet.version, hversion, frameLength, Packet.direction, Packet.typeByte,
      Packet.frameKind, Packet.frameSize, Packet.payload]

end SensorLink
