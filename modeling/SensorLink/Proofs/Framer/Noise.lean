import SensorLink.Proofs.Framer.Chunks

/-!
# Frames in noise

The other half of the framer's contract. `Chunks` says that the cuts do not matter; this file says
what comes out:

> **a stream of valid frames with noise before, between and after them reads as exactly those
> packets, loses exactly the noise, and leaves nothing behind** (`feed_stream`).

Noise is any string of bytes in which no frame could start. It may well hold version bytes, as
long as each of them is followed by something that gives it away inside the noise: an unknown type
or an announced payload that is too large. A version byte whose fate is still open when the noise
ends is not noise, because the frame behind it would be read as its continuation. The frames, on
the other hand, may hold anything: nothing inside a frame is ever looked at as a start.
-/

namespace SensorLink

/-! ## Noise -/

def Noise (d : Direction) (bytes : Bytes) : Prop :=
  ∀ suffix, suffix <:+ bytes → suffix.head? = some protocolVersion →
    ∃ cause, frameLength d suffix = .error cause

theorem noise_nil (d : Direction) : Noise d [] := by
  intro suffix hsuffix hhead
  rw [List.suffix_nil.mp hsuffix] at hhead
  cases hhead

/-- A byte is noise by what stands behind it: only where a frame could start does that matter. -/
theorem noise_cons_iff {d : Direction} {b : UInt8} {rest : Bytes} :
    Noise d (b :: rest) ↔
      (b = protocolVersion → ∃ cause, frameLength d (b :: rest) = .error cause) ∧ Noise d rest := by
  constructor
  · intro h
    refine ⟨fun hb => h _ List.suffix_rfl (by rw [hb]; rfl), fun suffix hsuffix => ?_⟩
    exact h suffix (hsuffix.trans (List.suffix_cons b rest))
  · rintro ⟨hfirst, hrest⟩ suffix hsuffix hhead
    rcases List.suffix_cons_iff.mp hsuffix with rfl | hsuffix
    · exact hfirst (Option.some.inj hhead)
    · exact hrest suffix hsuffix hhead

instance decidableError (x : Except Malformed (Option Nat)) :
    Decidable (∃ cause, x = .error cause) :=
  match x with
  | .error cause => isTrue ⟨cause, rfl⟩
  | .ok _ => isFalse nofun

instance Noise.decidable (d : Direction) : (bytes : Bytes) → Decidable (Noise d bytes)
  | [] => isTrue (noise_nil d)
  | _ :: rest =>
    have := Noise.decidable d rest
    decidable_of_iff _ noise_cons_iff.symm

/-- No frame starts anywhere in noise, at a version byte or at any other. -/
theorem Noise.frameLength_error {d : Direction} {b : UInt8} {rest : Bytes}
    (h : Noise d (b :: rest)) : ∃ cause, frameLength d (b :: rest) = .error cause := by
  by_cases hb : b = protocolVersion
  · exact (noise_cons_iff.mp h).1 hb
  · exact ⟨_, frameLength_cons_of_ne rest hb⟩

/-- Noise in front is given up byte by byte, and what stands behind it is read as if it were alone.
-/
theorem Reads.of_noise {d : Direction} {noise rest left : Bytes} {found : List Piece}
    (hnoise : Noise d noise) (h : Reads d rest found left) :
    Reads d (noise ++ rest) (noise.map .noise ++ found) left := by
  induction noise with
  | nil => exact h
  | cons b more ih =>
    obtain ⟨cause, herr⟩ := hnoise.frameLength_error
    exact .noise (frameLength_append_error rest herr) (ih (noise_cons_iff.mp hnoise).2)

/-! ## Valid frames -/

/-- A frame that a receiver can be expected to find: what a packet of this direction is encoded
to, if its end can be told. -/
structure ValidFrame (d : Direction) (p : Packet) (frame : Bytes) : Prop where
  encoded : p.encode = .ok frame
  direction : p.direction = d
  delimited : p.SelfDelimiting

theorem Reads.of_frame {d : Direction} {p : Packet} {frame rest left : Bytes}
    {found : List Piece} (hframe : ValidFrame d p frame) (h : Reads d rest found left) :
    Reads d (frame ++ rest) (.packet p frame :: found) left := by
  obtain ⟨hencode, rfl, hdelimited⟩ := hframe
  obtain ⟨hsize, hlayout⟩ := Packet.encode_eq_ok_iff.mp hencode
  have hlen : frameLength p.direction frame = .ok (some frame.length) := by
    rw [hlayout]
    exact frameLength_layout hdelimited hsize
  have hevent : FramerEvent.ofFrame p.direction frame = .packet p frame := by
    rw [FramerEvent.ofFrame, Packet.decode_encode hencode]
  have hreads := Reads.frame rfl (frameLength_append_ok rest hlen) h
  rwa [hevent] at hreads

/-! ## Streams -/

/-- A frame on the line, and the noise before it. -/
structure Segment where
  noise : Bytes
  packet : Packet
  frame : Bytes
  deriving DecidableEq, Repr

structure Segment.Valid (d : Direction) (s : Segment) : Prop where
  noise : Noise d s.noise
  frame : ValidFrame d s.packet s.frame

def stream : List Segment → Bytes → Bytes
  | [], trailing => trailing
  | s :: segments, trailing => s.noise ++ (s.frame ++ stream segments trailing)

def streamPieces : List Segment → Bytes → List Piece
  | [], trailing => trailing.map .noise
  | s :: segments, trailing =>
    s.noise.map .noise ++ .packet s.packet s.frame :: streamPieces segments trailing

/-- **A stream is read as it was put together**, segment by segment. -/
theorem reads_stream {d : Direction} {segments : List Segment} {trailing : Bytes}
    (hsegments : ∀ s ∈ segments, s.Valid d) (htrailing : Noise d trailing) :
    Reads d (stream segments trailing) (streamPieces segments trailing) [] := by
  induction segments with
  | nil =>
    have := Reads.of_noise htrailing (.wait (waiting_nil d))
    simpa only [stream, streamPieces, List.append_nil] using this
  | cons s segments ih =>
    have hs := hsegments s List.mem_cons_self
    have hlater := ih fun t ht => hsegments t (List.mem_cons_of_mem s ht)
    exact .of_noise hs.noise (.of_frame hs.frame hlater)

theorem packets_streamPieces (segments : List Segment) (trailing : Bytes) :
    Piece.packets (streamPieces segments trailing) = segments.map fun s => (s.packet, s.frame) := by
  induction segments with
  | nil => simpa [streamPieces, Piece.packets] using Piece.packets_noise_append trailing []
  | cons s segments ih =>
    rw [streamPieces, Piece.packets_noise_append, Piece.packets, ih, List.map_cons]

theorem gaps_streamPieces (segments : List Segment) (trailing : Bytes) :
    Piece.gaps (streamPieces segments trailing) = segments.map (·.noise) ++ [trailing] := by
  induction segments with
  | nil => simpa [streamPieces, Piece.gaps] using Piece.gaps_noise_append trailing []
  | cons s segments ih =>
    rw [streamPieces, Piece.gaps_noise_append, Piece.gaps, ih]
    simp

namespace Framer

/-- **Every frame of a noisy stream is found, and only noise is lost**, however the stream is cut
into chunks. -/
theorem feed_stream {d : Direction} {segments : List Segment} {trailing : Bytes}
    {chunks : List Bytes} (hsegments : ∀ s ∈ segments, s.Valid d) (htrailing : Noise d trailing)
    (hchunks : chunks.flatten = stream segments trailing) :
    packets ((fresh d).feed chunks).1 = segments.map (fun s => (s.packet, s.frame)) ∧
    gaps ((fresh d).feed chunks).1 = segments.map (·.noise) ++ [trailing] ∧
    ((fresh d).feed chunks).2 = fresh d := by
  have hreads := reads_feed_fresh d chunks
  rw [hchunks] at hreads
  obtain ⟨hpieces, hkept⟩ := hreads.unique (reads_stream hsegments htrailing)
  refine ⟨?_, ?_, Framer.ext (feed_direction _ _) hkept⟩
  · rw [packets_eq, hpieces, packets_streamPieces]
  · rw [gaps_eq, hpieces, gaps_streamPieces]

/-- An oversized uplink header whose third byte is a version byte again, then an uplink whose
payload looks like an error notification, then an answer, and a cut inside the header. -/
theorem feed_stream_oversized_header :
    let uplink : Packet := .uplinkNotification
      { unixTime := 0, device := 7, sensor := 0x0121, rssi := -58, reserved := 0xFFFF,
        payload := [0x01, 0xFF] }
    let answer : Packet := .jigInfoResponse
      { unixTime := 0, command := 0xCF, router := 9, payload := [0x00] }
    let segments : List Segment :=
      [⟨[0x55, 0x01, 0x00, 0x01, 0x04], uplink, uplink.layout⟩, ⟨[], answer, answer.layout⟩]
    let chunks : List Bytes := [[0x55, 0x01, 0x00], (stream segments [0x7F]).drop 3]
    (∀ s ∈ segments, s.Valid .routerToHost) ∧ Noise .routerToHost [0x7F] ∧
    chunks.flatten = stream segments [0x7F] ∧
    packets ((fresh .routerToHost).feed chunks).1 = segments.map (fun s => (s.packet, s.frame)) ∧
    gaps ((fresh .routerToHost).feed chunks).1 = segments.map (·.noise) ++ [[0x7F]] ∧
    ((fresh .routerToHost).feed chunks).2 = fresh .routerToHost := by
  intro uplink answer segments chunks
  have hsegments : ∀ s ∈ segments, s.Valid .routerToHost := by
    intro s hs
    rcases List.mem_cons.mp hs with rfl | hs
    · exact ⟨by decide, ⟨rfl, rfl, rfl, fun _ h => nomatch h⟩⟩
    · rw [List.mem_singleton.mp hs]
      exact ⟨by decide, ⟨rfl, rfl, rfl, fun _ h => by cases h; rfl⟩⟩
  have htrailing : Noise .routerToHost [0x7F] := by decide
  exact ⟨hsegments, htrailing, rfl, feed_stream hsegments htrailing rfl⟩

end Framer
end SensorLink
