import SensorLink.Proofs.Framer.Conservation
import SensorLink.Router.Reply

/-!
# What is cut out can be interpreted

An answer of the router has no length field. The framer cuts it by a table of lengths and
`RouterReply.parse` takes it apart by a table of shapes, each with a line for every kind of answer.
If the two came to differ in one line, an answer would be cut too short to be interpreted, or so
long that it swallows the beginning of the next frame. They are held together here:

> **a payload is interpreted exactly if its length is known and that many bytes are there, and
> nothing behind these is looked at** (`parse_agrees`).

Most lines are read off. The device table is not, because its length is in its own first byte and
its slots are numbered while they are read; `exists_readSlots` is the induction over them.
-/

namespace SensorLink

open Wire

namespace RouterReply

/-! ## The slots of a table -/

theorem readSlots_succ (index count : Nat) (id : UInt64) (rest : Bytes) :
    readSlots index (count + 1) (u64 id ++ rest) =
      (readSlots (index + 1) count rest).map (⟨UInt8.ofNat index, id⟩ :: ·) := by
  have hread : readU64 (u64 id ++ rest) = some (id, rest) := readU64_eq_some_iff.mpr rfl
  rw [readSlots, hread]
  show ((readSlots (index + 1) count rest).bind fun slots => some (_ :: slots)) = _
  cases readSlots (index + 1) count rest with
  | none => rfl
  | some slots => rfl

theorem leValue_u64 (id : UInt64) : leValue (u64 id) = id.toNat := by
  have hlt := id.toNat_lt
  rw [u64, leValue_leBytes]
  omega

/-- Eight bytes for each slot are enough, whatever they are. -/
theorem exists_readSlots (index : Nat) {count : Nat} {bytes : Bytes}
    (h : 8 * count ≤ bytes.length) :
    ∃ slots, readSlots index count bytes = some slots ∧ slots.length = count ∧
      ∀ i (hi : i < slots.length), slots[i].index = UInt8.ofNat (index + i) ∧
        slots[i].device.toNat = leValue ((bytes.drop (8 * i)).take 8) := by
  -- The index is that of the first entry still to be read, and it goes up with each.
  induction count generalizing index bytes with
  | zero =>
    refine ⟨[], rfl, rfl, ?_⟩
    intro i hi
    cases hi
  | succ count ih =>
    obtain ⟨id, rest, rfl, hrest⟩ := exists_u64 bytes (by omega)
    have hlater : 8 * count ≤ rest.length := by omega
    obtain ⟨slots, hslots, hlength, hall⟩ := ih (index + 1) hlater
    refine ⟨⟨UInt8.ofNat index, id⟩ :: slots, ?_, ?_, ?_⟩
    · rw [readSlots_succ, hslots]
      rfl
    · rw [List.length_cons, hlength]
    · intro i hi
      cases i with
      | zero =>
        refine ⟨rfl, ?_⟩
        show id.toNat = leValue ((u64 id ++ rest).take (u64 id).length)
        rw [List.take_left, leValue_u64]
      | succ i =>
        have hlater : i < slots.length := Nat.lt_of_succ_lt_succ hi
        obtain ⟨hindex, hdevice⟩ := hall i hlater
        constructor
        · show slots[i].index = UInt8.ofNat (index + (i + 1))
          rw [hindex, Nat.add_assoc, Nat.add_comm 1 i]
        · show slots[i].device.toNat = leValue (((u64 id ++ rest).drop (8 * (i + 1))).take 8)
          have hdrop : (u64 id ++ rest).drop (8 * (i + 1)) = rest.drop (8 * i) := by
            rw [Nat.mul_succ, Nat.add_comm, ← List.drop_drop]
            rfl
          rw [hdevice, hdrop]

theorem exists_of_readSlots {index count : Nat} {bytes : Bytes} {slots : List DeviceSlot}
    (h : readSlots index (count + 1) bytes = some slots) :
    ∃ id rest later, bytes = u64 id ++ rest ∧ readSlots (index + 1) count rest = some later ∧
      slots = ⟨UInt8.ofNat index, id⟩ :: later := by
  rw [readSlots] at h
  obtain ⟨⟨id, rest⟩, hread, h⟩ := Option.bind_eq_some_iff.mp h
  obtain ⟨later, hlater, h⟩ := Option.bind_eq_some_iff.mp h
  cases h
  exact ⟨id, rest, later, readU64_eq_some_iff.mp hread, hlater, rfl⟩

theorem length_of_readSlots {index count : Nat} {bytes : Bytes} {slots : List DeviceSlot}
    (h : readSlots index count bytes = some slots) : 8 * count ≤ bytes.length := by
  induction count generalizing index bytes slots with
  | zero => exact Nat.zero_le _
  | succ count ih =>
    obtain ⟨id, rest, later, rfl, hlater, -⟩ := exists_of_readSlots h
    have hrest := ih hlater
    rw [List.length_append, length_u64]
    omega

theorem readSlots_append {index count : Nat} {bytes : Bytes} {slots : List DeviceSlot}
    (more : Bytes) (h : readSlots index count bytes = some slots) :
    readSlots index count (bytes ++ more) = some slots := by
  induction count generalizing index bytes slots with
  | zero => exact h
  | succ count ih =>
    obtain ⟨id, rest, later, rfl, hlater, rfl⟩ := exists_of_readSlots h
    rw [List.append_assoc, readSlots_succ, ih hlater]
    rfl

/-! ## Lengths and shapes -/

open RouterCommand

variable {shape : ReplyShape} {payload : Bytes} {reply : RouterReply} {n : Nat}

/-- A payload that has a meaning has a length. -/
theorem exists_length_of_ofPayload? (h : ofPayload? shape payload = some reply) :
    ∃ n, shape.length? payload = some n ∧ n ≤ payload.length := by
  unfold ofPayload? at h
  split at h
  case h_1 => exact ⟨3, rfl, by simp⟩
  case h_2 => exact ⟨1, rfl, by simp⟩
  case h_3 count entries =>
    obtain ⟨slots, hslots, -⟩ := Option.map_eq_some_iff.mp h
    have hentries := length_of_readSlots hslots
    refine ⟨1 + 8 * count.toNat, rfl, ?_⟩
    rw [List.length_cons]
    omega
  case h_4 index entry =>
    obtain ⟨⟨id, rest⟩, hread, -⟩ := Option.map_eq_some_iff.mp h
    obtain rfl := readU64_eq_some_iff.mp hread
    refine ⟨9, rfl, ?_⟩
    rw [List.length_cons, List.length_append, length_u64]
    omega
  case h_5 => exact ⟨1, rfl, by simp⟩
  case h_6 => cases h

/-- A payload that has its length has a meaning. -/
theorem exists_ofPayload? (h : shape.length? payload = some n) (hle : n ≤ payload.length) :
    ∃ reply, ofPayload? shape payload = some reply := by
  cases shape with
  | version =>
    cases h
    match payload with
    | major :: minor :: build :: _ => exact ⟨_, rfl⟩
  | scanMode | status =>
    cases h
    match payload with
    | _ :: _ => exact ⟨_, rfl⟩
  -- The one reply whose length is in the reply itself: the count of its entries.
  | deviceTable =>
    match payload with
    | count :: entries =>
      obtain rfl : 1 + 8 * count.toNat = n := Option.some.inj h
      rw [List.length_cons] at hle
      have hentries : 8 * count.toNat ≤ entries.length := by omega
      obtain ⟨slots, hslots, -⟩ := exists_readSlots 0 hentries
      refine ⟨.devices slots, ?_⟩
      rw [ofPayload?, hslots]
      rfl
  | deviceSlot =>
    cases h
    match payload with
    | index :: entry =>
      rw [List.length_cons] at hle
      obtain ⟨id, rest, rfl, -⟩ := exists_u64 entry (by omega)
      refine ⟨.device ⟨index, id⟩, ?_⟩
      rw [ofPayload?, readU64_eq_some_iff.mpr rfl]
      rfl

/-- What follows a payload that has a meaning does not change it. -/
theorem ofPayload?_append (more : Bytes) (h : ofPayload? shape payload = some reply) :
    ofPayload? shape (payload ++ more) = some reply := by
  unfold ofPayload? at h
  split at h
  case h_1 | h_2 | h_5 => exact h
  case h_3 =>
    obtain ⟨slots, hslots, rfl⟩ := Option.map_eq_some_iff.mp h
    rw [List.cons_append, ofPayload?, readSlots_append more hslots]
    rfl
  case h_4 =>
    obtain ⟨⟨id, rest⟩, hread, rfl⟩ := Option.map_eq_some_iff.mp h
    obtain rfl := readU64_eq_some_iff.mp hread
    rw [List.cons_append, List.append_assoc, ofPayload?, readU64_eq_some_iff.mpr rfl]
    rfl
  case h_6 => cases h

/-- The bytes that a length counts are enough to know it by. -/
theorem length?_take (h : shape.length? payload = some n) :
    shape.length? (payload.take n) = some n := by
  cases shape with
  | version | scanMode | deviceSlot | status => exact h
  | deviceTable =>
    match payload with
    | count :: entries =>
      obtain rfl : 1 + 8 * count.toNat = n := Option.some.inj h
      rw [Nat.add_comm, List.take_succ_cons, Nat.add_comm]
      rfl

/-- The bytes that a length counts are enough to know what they mean. -/
theorem ofPayload?_take_append (rest : Bytes) (h : shape.length? payload = some n)
    (hle : n ≤ payload.length) :
    ofPayload? shape (payload.take n ++ rest) = ofPayload? shape payload := by
  have htake : n ≤ (payload.take n).length := by
    rw [List.length_take]
    omega
  obtain ⟨reply, hreply⟩ := exists_ofPayload? (length?_take h) htake
  have hwhole := ofPayload?_append (payload.drop n) hreply
  rw [List.take_append_drop] at hwhole
  rw [ofPayload?_append rest hreply, hwhole]

/-! ## Answers -/

theorem parse_eq_ok_iff {r : JigInfoResponse} :
    parse r = .ok reply ↔ ofPayload? (ofCode r.command).replyShape r.payload = some reply := by
  unfold parse
  cases hfound : ofPayload? (ofCode r.command).replyShape r.payload with
  | none => simp [hfound]
  | some found => simp [hfound]

theorem exists_parse_iff (r : JigInfoResponse) :
    (∃ reply, parse r = .ok reply) ↔
      ∃ n, replyLength? r.command r.payload = some n ∧ n ≤ r.payload.length := by
  constructor
  · rintro ⟨reply, h⟩
    exact exists_length_of_ofPayload? (parse_eq_ok_iff.mp h)
  · rintro ⟨n, hlen, hle⟩
    obtain ⟨reply, hreply⟩ := exists_ofPayload? hlen hle
    exact ⟨reply, parse_eq_ok_iff.mpr hreply⟩

theorem parse_take_append {r : JigInfoResponse} (rest : Bytes)
    (hlen : replyLength? r.command r.payload = some n) (hle : n ≤ r.payload.length) :
    parse { r with payload := r.payload.take n ++ rest } = parse r := by
  obtain ⟨reply, hreply⟩ := exists_ofPayload? hlen hle
  have hwhole : parse r = .ok reply := parse_eq_ok_iff.mpr hreply
  rw [hwhole, parse_eq_ok_iff]
  show ofPayload? (ofCode r.command).replyShape (r.payload.take n ++ rest) = some reply
  rw [ofPayload?_take_append rest hlen hle, hreply]

/-- An answer that a framer has found has the length that its command asks for. -/
theorem replyLength?_of_onWire {d : Direction} {r : JigInfoResponse} {raw : Bytes}
    (h : (FramerEvent.packet (.jigInfoResponse r) raw).OnWire d) :
    replyLength? r.command r.payload = some r.payload.length := by
  obtain ⟨hencode, hd, -, hlen⟩ := h
  have hwhole : frameLength d (raw ++ []) = .ok (some raw.length) := by
    rw [List.append_nil]
    exact hlen
  obtain ⟨p, hvalid⟩ := exists_validFrame hwhole
  have hdecode := hvalid.decode_eq
  rw [← hd, Packet.decode_encode hencode] at hdecode
  cases hdecode
  exact hvalid.delimited.answer r rfl

/-- A table lists as many devices as it announces, in the order in which they stand. -/
theorem parse_table {r : JigInfoResponse} {count : UInt8} {entries : Bytes}
    (hcommand : r.command = RouterCommand.getAllDevices.code)
    (hpayload : r.payload = count :: entries) (h : 8 * count.toNat ≤ entries.length) :
    ∃ slots, parse r = .ok (.devices slots) ∧ slots.length = count.toNat ∧
      ∀ i (hi : i < slots.length), slots[i].index.toNat = i ∧
        slots[i].device.toNat = leValue ((r.payload.drop (1 + 8 * i)).take 8) := by
  obtain ⟨slots, hslots, hlength, hall⟩ := exists_readSlots 0 h
  refine ⟨slots, ?_, hlength, ?_⟩
  · rw [parse_eq_ok_iff, hcommand, hpayload]
    show (readSlots 0 count.toNat entries).map RouterReply.devices = _
    rw [hslots]
    rfl
  · intro i hi
    obtain ⟨hindex, hdevice⟩ := hall i hi
    -- A count is a byte, so that the numbers of its slots are bytes too.
    have hcount := count.toNat_lt
    constructor
    · rw [hindex, Nat.zero_add, UInt8.toNat_ofNat']
      omega
    · rw [hdevice, hpayload, Nat.add_comm, List.drop_succ_cons]

/-- **Interpreting an answer and cutting it out agree**, whatever its command and its payload: it is
interpreted exactly if its length is known and there, and only the bytes that this length counts are
looked at. So whatever a framer finds can be interpreted. A device table is taken apart completely:
all the slots that it announces, numbered from 0 in their order, each with the id in its place. -/
theorem parse_agrees (r : JigInfoResponse) :
    ((∃ reply, parse r = .ok reply) ↔
      ∃ n, replyLength? r.command r.payload = some n ∧ n ≤ r.payload.length) ∧
    (∀ n rest, replyLength? r.command r.payload = some n → n ≤ r.payload.length →
      parse { r with payload := r.payload.take n ++ rest } = parse r) ∧
    (∀ d calls raw, .packet (.jigInfoResponse r) raw ∈ ((Framer.Session.start d).run calls).said →
      ∃ reply, parse r = .ok reply) ∧
    ∀ count entries, r.command = RouterCommand.getAllDevices.code → r.payload = count :: entries →
      8 * count.toNat ≤ entries.length →
      ∃ slots, parse r = .ok (.devices slots) ∧ slots.length = count.toNat ∧
        ∀ i (hi : i < slots.length), slots[i].index.toNat = i ∧
          slots[i].device.toNat = leValue ((r.payload.drop (1 + 8 * i)).take 8) := by
  refine ⟨exists_parse_iff r, ?_, ?_, ?_⟩
  · intro n rest hlen hle
    exact parse_take_append rest hlen hle
  · intro d calls raw hsaid
    have hconserved := (Framer.Session.Conserved.start (d := d)).run calls
    have hlen := replyLength?_of_onWire (hconserved.onWire _ hsaid)
    exact (exists_parse_iff r).mpr ⟨r.payload.length, hlen, Nat.le_refl _⟩
  · intro count entries hcommand hpayload h
    exact parse_table hcommand hpayload h

/-- A table of two slots, and bytes of something else behind it. -/
example :
    let table : Bytes := 2 :: u64 0x2468800203400004 ++ u64 7 ++ [0xAA, 0xBB]
    parse { unixTime := 0, command := 0xCF, router := 9, payload := table } =
      .ok (.devices [⟨0, 0x2468800203400004⟩, ⟨1, 7⟩]) := by
  rfl

end RouterReply
end SensorLink
