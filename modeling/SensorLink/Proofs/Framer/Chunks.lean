import SensorLink.Proofs.Framer.Reading

/-!
# The chunks do not matter

A serial line hands over bytes in pieces of any size, and the framer drains after each. This file
says that the cuts between the pieces leave no trace:

> **two framers that start empty and are fed the same bytes in different chunks give the same
> packets from the same frames, lose the same bytes in the same places, and keep the same rest**
> (`feed_eq_of_flatten_eq`).

What may differ is how a loss is grouped: one `discarded` event or several. `gaps` is the quantity
that the grouping cannot change. It holds, for every stretch before, between and after the
packets, all the bytes that were given up there.
-/

namespace SensorLink

/-! ## What a run of events amounts to -/

/-- The packets of a run, each with the frame it was read from. -/
def packets : List FramerEvent → List (Packet × Bytes)
  | [] => []
  | .packet p raw :: events => (p, raw) :: packets events
  | .discarded _ _ :: events => packets events

/-- The bytes given up before the first packet of a run, between any two, and after the last: one
entry more than there are packets. -/
def gaps : List FramerEvent → List Bytes
  | [] => [[]]
  | .packet _ _ :: events => [] :: gaps events
  | .discarded _ dropped :: events => (gaps events).modifyHead (dropped ++ ·)

namespace Piece

def packets : List Piece → List (Packet × Bytes)
  | [] => []
  | .packet p raw :: found => (p, raw) :: packets found
  | .noise _ :: found => packets found

def gaps : List Piece → List Bytes
  | [] => [[]]
  | .packet _ _ :: found => [] :: gaps found
  | .noise byte :: found => (gaps found).modifyHead (byte :: ·)

theorem packets_noise_append (dropped : Bytes) (found : List Piece) :
    packets (dropped.map .noise ++ found) = packets found := by
  induction dropped with
  | nil => rfl
  | cons b rest ih => exact ih

/-- Bytes that are given up one after the other make one gap. -/
theorem gaps_noise_append (dropped : Bytes) (found : List Piece) :
    gaps (dropped.map .noise ++ found) = (gaps found).modifyHead (dropped ++ ·) := by
  induction dropped with
  | nil => cases h : gaps found <;> simp [h]
  | cons b rest ih =>
    simp only [List.map_cons, List.cons_append, gaps, ih, List.modifyHead_modifyHead]
    rfl

end Piece

/-- Packets and gaps are read off the pieces, so whatever has the same pieces has the same packets
and the same gaps. -/
theorem packets_eq (events : List FramerEvent) :
    packets events = Piece.packets (pieces events) := by
  induction events with
  | nil => rfl
  | cons event events ih =>
    cases event with
    | packet p raw => exact congrArg ((p, raw) :: ·) ih
    | discarded cause dropped =>
      rw [pieces_cons, FramerEvent.pieces, Piece.packets_noise_append]
      exact ih

theorem gaps_eq (events : List FramerEvent) : gaps events = Piece.gaps (pieces events) := by
  induction events with
  | nil => rfl
  | cons event events ih =>
    cases event with
    | packet p raw => exact congrArg ([] :: ·) ih
    | discarded cause dropped =>
      rw [pieces_cons, FramerEvent.pieces, Piece.gaps_noise_append, ← ih]
      rfl

/-! ## Feeding chunks -/

theorem Reads.waiting {d : Direction} {bytes left : Bytes} {found : List Piece}
    (h : Reads d bytes found left) : Waiting d left := by
  induction h with
  | wait hwait => exact hwait
  | noise _ _ ih => exact ih
  | frame _ _ _ ih => exact ih

namespace Framer

/-- Takes in one chunk after another and drains after each. -/
def feed (framer : Framer) : List Bytes → List FramerEvent × Framer
  | [] => ([], framer)
  | chunk :: chunks =>
    let (now, framer) := (framer.push chunk).drain
    let (later, framer) := feed framer chunks
    (now ++ later, framer)

theorem feed_cons (framer : Framer) (chunk : Bytes) (chunks : List Bytes) :
    framer.feed (chunk :: chunks) =
      ((framer.push chunk).drain.1 ++ ((framer.push chunk).drain.2.feed chunks).1,
        ((framer.push chunk).drain.2.feed chunks).2) := rfl

theorem trickle_eq_feed (framer : Framer) (bytes : Bytes) :
    framer.trickle bytes = framer.feed (bytes.map ([·])) := by
  induction bytes generalizing framer with
  | nil => rfl
  | cons b rest ih => simp only [trickle, List.map_cons, feed_cons, ih]

theorem drain_direction (framer : Framer) : framer.drain.2.direction = framer.direction := by
  induction framer using drain.induct with
  | case1 framer hnone => rw [drain_of_none hnone]
  | case2 framer event after hsome _ _ _ ih =>
    rw [drain_of_some hsome]
    exact ih.trans (next_bytes hsome).2

theorem feed_direction (framer : Framer) (chunks : List Bytes) :
    (framer.feed chunks).2.direction = framer.direction := by
  induction chunks generalizing framer with
  | nil => rfl
  | cons chunk chunks ih =>
    rw [feed_cons]
    exact (ih _).trans (drain_direction _)

/-- **However it is cut, feeding a stream is reading it whole.** The induction is on the chunks;
what carries it is that every drain stops at a place to wait at, which is where the reading of the
rest begins. -/
theorem reads_feed {framer : Framer} (chunks : List Bytes)
    (h : Waiting framer.direction framer.buffer) :
    Reads framer.direction (framer.buffer ++ chunks.flatten) (pieces (framer.feed chunks).1)
      (framer.feed chunks).2.buffer := by
  induction chunks generalizing framer with
  | nil =>
    rw [List.flatten_nil, List.append_nil]
    exact .wait h
  | cons chunk chunks ih =>
    have hnow := reads_drain (framer.push chunk)
    have hwait :
        Waiting (framer.push chunk).drain.2.direction (framer.push chunk).drain.2.buffer := by
      rw [drain_direction]
      exact hnow.waiting
    have hlater := ih hwait
    rw [drain_direction] at hlater
    rw [feed_cons, pieces_append, List.flatten_cons, ← List.append_assoc]
    exact hnow.append hlater

theorem reads_feed_fresh (d : Direction) (chunks : List Bytes) :
    Reads d chunks.flatten (pieces ((fresh d).feed chunks).1) ((fresh d).feed chunks).2.buffer :=
  @reads_feed (fresh d) chunks (waiting_nil d)

/-- **The same bytes in other chunks: the same packets, the same bytes kept, the same bytes
lost.** -/
theorem feed_eq_of_flatten_eq (d : Direction) {chunks chunks' : List Bytes}
    (h : chunks.flatten = chunks'.flatten) :
    packets ((fresh d).feed chunks).1 = packets ((fresh d).feed chunks').1 ∧
    ((fresh d).feed chunks).2 = ((fresh d).feed chunks').2 ∧
    gaps ((fresh d).feed chunks).1 = gaps ((fresh d).feed chunks').1 := by
  have hreads := reads_feed_fresh d chunks
  rw [h] at hreads
  obtain ⟨hpieces, hkept⟩ := hreads.unique (reads_feed_fresh d chunks')
  refine ⟨?_, ?_, ?_⟩
  · rw [packets_eq, packets_eq, hpieces]
  · exact Framer.ext ((feed_direction _ _).trans (feed_direction _ _).symm) hkept
  · rw [gaps_eq, gaps_eq, hpieces]

/-- A cut behind a version byte: what was one loss is two, the second of them begun at a start
that was plausible for as long as it was the last byte. -/
theorem feed_eq_of_flatten_eq_lone_version :
    let cut : List Bytes := [[0x55, 0x01], [0x55]]
    let whole : List Bytes := [[0x55, 0x01, 0x55]]
    let ofCut := (fresh .routerToHost).feed cut
    let ofWhole := (fresh .routerToHost).feed whole
    cut.flatten = whole.flatten ∧ ofCut.1.length = 2 ∧ ofWhole.1.length = 1 ∧
    packets ofCut.1 = packets ofWhole.1 ∧ ofCut.2 = ofWhole.2 ∧ gaps ofCut.1 = gaps ofWhole.1 := by
  intro cut whole ofCut ofWhole
  have h : cut.flatten = whole.flatten := rfl
  exact ⟨h, by decide +kernel, by decide +kernel, feed_eq_of_flatten_eq .routerToHost h⟩

end Framer
end SensorLink
