import SensorLink.Link.Router
import SensorLink.Proofs.Framer.Chunks

/-!
# What a framer finds

Two things are wanted of the packets that a framer has found while a stream was fed to it in
chunks. They are the packets of the whole stream (`packets_feed`), and the bytes that each was read
from are the packet's own encoding:

> **every frame that is found is what its packet is encoded to** (`encode_of_mem_drain`).

Decoding alone does not give the second: a decoder takes any payload whose length fits its field,
and an encoder refuses the ones that are too large. It is the framer that never cuts out such a
frame (`not_oversized_of_frame`).
-/

namespace SensorLink

open Wire

/-! ## Frames are encodings -/

theorem prefixedLength_of_lt (header : Nat) (v type : UInt8) {n : Nat} (rest : Bytes)
    (h : maxPayload < n) (hfits : n < 65536) :
    prefixedLength header (v :: type :: (u16 (UInt16.ofNat n) ++ rest)) =
      .error (.announcesTooMuch n) := by
  have hn : (UInt16.ofNat n).toNat = n := by
    rw [UInt16.toNat_ofNat']
    omega
  rw [prefixedLength_field, hn, if_pos h]

/-- The front of a frame with too large a payload says so. -/
theorem frameLength_layout_of_oversized {p : Packet} (hversion : p.version = protocolVersion)
    (hsize : p.Oversized) (hfits : p.Announceable) :
    frameLength p.direction p.layout = .error (.announcesTooMuch p.payload.length) := by
  obtain ⟨hfield, hlong⟩ := hsize
  have hfits := hfits hfield
  cases p with
  | downlinkRequest p | uplinkNotification p =>
    simp only [Packet.payload] at hlong hfits
    simp only [Packet.version] at hversion
    have herror := prefixedLength_of_lt 21 protocolVersion
    simp [Packet.layout, Packet.version, hversion, frameLength, Packet.direction, Packet.typeByte,
      Packet.lengthBytes, Packet.hasLength, Packet.payload, herror _ _ hlong hfits]
  | _ => cases hfield

theorem not_oversized_of_frame {d : Direction} {raw kept : Bytes} {p : Packet}
    (hlen : frameLength d (raw ++ kept) = .ok (some raw.length))
    (hdecode : Packet.decode d raw = .ok p) : ¬ p.Oversized := by
  intro hsize
  obtain ⟨rfl, rfl, hfits⟩ := Packet.decode_eq_ok_iff.mp hdecode
  have hversion : p.version = protocolVersion := version_of_frameLength hlen
  have herror := frameLength_layout_of_oversized hversion hsize hfits
  rw [frameLength_append_error kept herror] at hlen
  cases hlen

namespace Framer

theorem encode_of_next {framer after : Framer} {p : Packet} {raw : Bytes}
    (h : framer.next = some (.packet p raw, after)) : p.encode = .ok raw := by
  obtain ⟨d, bytes⟩ := framer
  cases front d bytes with
  | waiting hwait => simp [next_of_waiting hwait] at h
  | noise herr => simp [next_of_error herr] at h
  | @frame raw' kept hlen =>
    rw [next_of_frame hlen, FramerEvent.ofFrame] at h
    cases hdecode : Packet.decode d raw' with
    | error cause =>
      rw [hdecode] at h
      cases h
    | ok q =>
      rw [hdecode] at h
      cases h
      have hsize := not_oversized_of_frame hlen hdecode
      exact Packet.encode_eq_ok_iff.mpr ⟨hsize, (Packet.decode_eq_ok_iff.mp hdecode).2.1⟩

/-- **Every frame that is found is what its packet is encoded to.** -/
theorem encode_of_mem_drain {framer : Framer} {p : Packet} {raw : Bytes}
    (h : .packet p raw ∈ framer.drain.1) : p.encode = .ok raw := by
  induction framer using drain.induct with
  | case1 framer hnone => simp [drain_of_none hnone] at h
  | case2 framer event after hsome _ _ _ ih =>
    rw [drain_of_some hsome, List.mem_cons] at h
    rcases h with rfl | h
    · exact encode_of_next hsome
    · exact ih h

/-! ## Chunks, one more -/

theorem feed_append (framer : Framer) (chunks more : List Bytes) :
    framer.feed (chunks ++ more) =
      ((framer.feed chunks).1 ++ ((framer.feed chunks).2.feed more).1,
        ((framer.feed chunks).2.feed more).2) := by
  induction chunks generalizing framer with
  | nil => rfl
  | cons chunk chunks ih => simp only [List.cons_append, feed_cons, ih, List.append_assoc]

theorem feed_concat (framer : Framer) (chunks : List Bytes) (chunk : Bytes) :
    framer.feed (chunks ++ [chunk]) =
      ((framer.feed chunks).1 ++ ((framer.feed chunks).2.push chunk).drain.1,
        ((framer.feed chunks).2.push chunk).drain.2) := by
  simp [feed_append, feed]

/-- **The packets found in chunks are those of the whole.** -/
theorem packets_feed (d : Direction) (chunks : List Bytes) :
    packets ((fresh d).feed chunks).1 = packets ((fresh d).push chunks.flatten).drain.1 := by
  have hwhole := reads_feed_fresh d [chunks.flatten]
  have hone : ((fresh d).feed [chunks.flatten]).1 = ((fresh d).push chunks.flatten).drain.1 := by
    simp [feed]
  rw [hone, List.flatten_singleton] at hwhole
  rw [packets_eq, packets_eq, ((reads_feed_fresh d chunks).unique hwhole).1]

end Framer

/-- The packets of a run, with and without their frames. -/
theorem map_fst_packets (events : List FramerEvent) :
    (packets events).map Prod.fst = RouterEnd.packetsOf events := by
  induction events with
  | nil => rfl
  | cons event events ih =>
    cases event with
    | packet p raw => exact congrArg (p :: ·) ih
    | discarded cause dropped => exact ih

end SensorLink
