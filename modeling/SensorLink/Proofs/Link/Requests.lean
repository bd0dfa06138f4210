import SensorLink.Link.Circuit
import SensorLink.Proofs.Framer.Frames
import SensorLink.Proofs.Framer.Noise
import Mathlib.Data.List.Forall2

/-!
# What the router finds in the writes of the host

The router takes writes only as it needs them, keeps what it has found too much, and keeps a framer
in between. What it finds is nevertheless settled by the writes alone: looking for a request is

> **taking the first of the packets that are awaited** (`Served.request_eq`),

those that were found already and those that the framer will find in the writes that are left. And
where every write is one whole request, these are the requests, one for each (`packetsOf_feed`).
-/

namespace SensorLink

namespace RouterEnd

variable {router : RouterEnd}

/-- The packets that the router has found, and those that it will find in what is written. -/
def awaiting (router : RouterEnd) : List Packet :=
  router.pending ++ packetsOf (router.framer.feed router.written).1

/-- What is found in later writes depends on what the earlier ones have left in the framer, and on
nothing else of them. -/
theorem packetsOf_feed_append (framer : Framer) (writes later : List Bytes) :
    packetsOf (framer.feed (writes ++ later)).1 =
      packetsOf (framer.feed writes).1 ++ packetsOf ((framer.feed writes).2.feed later).1 := by
  rw [Framer.feed_append, packetsOf_append]

/-! ## Taking writes -/

/-- The same router with other writes. -/
structure Rewritten (router : RouterEnd) (writes : List Bytes) (after : RouterEnd) : Prop where
  written : after.written = writes
  connections : after.connections = router.connections
  session : after.session.isSome = router.session.isSome

theorem rewritten_hangUp (router : RouterEnd) :
    router.Rewritten router.written router.hangUp := by
  obtain ⟨connections, refusing, session, framer, pending⟩ := router
  cases session <;> exact ⟨rfl, rfl, rfl⟩

theorem takeWrite_eq (router : RouterEnd) :
    router.takeWrite.1 = router.written.head? ∧
    router.Rewritten router.written.tail router.takeWrite.2 ∧
    router.takeWrite.2.framer = router.framer ∧ router.takeWrite.2.pending = router.pending := by
  obtain ⟨connections, refusing, session, framer, pending⟩ := router
  match session with
  | none => exact ⟨rfl, ⟨rfl, rfl, rfl⟩, rfl, rfl⟩
  | some ⟨[], _⟩ => exact ⟨rfl, ⟨rfl, rfl, rfl⟩, rfl, rfl⟩
  | some ⟨_ :: _, _⟩ => exact ⟨rfl, ⟨rfl, rfl, rfl⟩, rfl, rfl⟩

/-- Writes are taken in order, and no more of them than it takes to find something. -/
theorem takeRequests_eq (framer : Framer) (writes : List Bytes) :
    ∃ used, writes = used ++ (takeRequests framer writes).1 ∧
      (takeRequests framer writes).2.1 = packetsOf (framer.feed used).1 ∧
      (takeRequests framer writes).2.2 = (framer.feed used).2 ∧
      ((takeRequests framer writes).2.1 = [] → (takeRequests framer writes).1 = []) := by
  -- Writes in which nothing is found are used up, and the first other one ends the search.
  induction writes generalizing framer with
  | nil => exact ⟨[], rfl, rfl, rfl, fun _ => rfl⟩
  | cons write writes ih =>
    cases hfound : packetsOf (framer.push write).drain.1 with
    | nil =>
      obtain ⟨used, hused, hpackets, hframer, hnone⟩ := ih (framer.push write).drain.2
      have hnext : takeRequests framer (write :: writes) =
          takeRequests (framer.push write).drain.2 writes := by
        simp only [takeRequests, hfound]
      rw [hnext]
      refine ⟨write :: used, by rw [List.cons_append, ← hused], ?_, hframer, hnone⟩
      rw [Framer.feed_cons, packetsOf_append, hfound, hpackets]
      rfl
    | cons p found =>
      have hnext : takeRequests framer (write :: writes) =
          (writes, p :: found, (framer.push write).drain.2) := by
        simp only [takeRequests, hfound]
      rw [hnext]
      refine ⟨[write], rfl, ?_, rfl, by simp⟩
      rw [Framer.feed_cons, packetsOf_append, hfound]
      simp [Framer.feed, packetsOf]

/-- What comes of looking for a request: some writes are used up, and what the framer finds in them
goes behind what was found before. -/
structure Served (router : RouterEnd) (used : List Bytes) (request : Option Packet)
    (after : RouterEnd) : Prop where
  written : router.written = used ++ after.written
  rewritten : router.Rewritten after.written after
  framer : after.framer = (router.framer.feed used).2
  found : request.toList ++ after.pending = router.pending ++ packetsOf (router.framer.feed used).1
  /-- Nothing is handed out only if there is nothing to find. -/
  nothing : request = none → after.awaiting = []

/-- **One call of `nextRequest`, whatever comes of it.** -/
theorem served (router : RouterEnd) :
    ∃ used, router.Served used router.nextRequest.1 router.nextRequest.2 := by
  obtain ⟨connections, refusing, session, framer, pending⟩ := router
  match pending, session with
  | p :: rest, session =>
    refine ⟨[], rfl, ⟨rfl, rfl, rfl⟩, rfl, ?_, by simp [nextRequest]⟩
    exact (List.append_nil _).symm
  | [], none => exact ⟨[], rfl, ⟨rfl, rfl, rfl⟩, rfl, rfl, fun _ => rfl⟩
  | [], some session =>
    obtain ⟨used, hused, hpackets, hframer, hnone⟩ := takeRequests_eq framer session.written
    refine ⟨used, ?_⟩
    simp only [nextRequest]
    generalize takeRequests framer session.written = result at hused hpackets hframer hnone
    obtain ⟨written, found, after⟩ := result
    dsimp only at hused hpackets hframer hnone ⊢
    cases found with
    | nil =>
      obtain rfl := hnone rfl
      exact ⟨hused, ⟨rfl, rfl, rfl⟩, hframer, hpackets, fun _ => rfl⟩
    | cons p found => exact ⟨hused, ⟨rfl, rfl, rfl⟩, hframer, hpackets, nofun⟩

namespace Served

variable {used : List Bytes} {request : Option Packet} {after : RouterEnd}

/-- To hand out a request changes nothing in what there is to hand out, but for that request. -/
theorem awaiting_eq (h : router.Served used request after) :
    request.toList ++ after.awaiting = router.awaiting := by
  rw [awaiting, awaiting, ← List.append_assoc, h.found, h.framer, h.written, packetsOf_feed_append,
    List.append_assoc]

/-- **Looking for a request takes the first of those that are awaited.** -/
theorem request_eq (h : router.Served used request after) :
    request = router.awaiting.head? ∧ after.awaiting = router.awaiting.tail := by
  have hawaiting := h.awaiting_eq
  cases request with
  | none =>
    have hnothing := h.nothing rfl
    simp only [Option.toList_none, List.nil_append] at hawaiting
    rw [← hawaiting, hnothing]
    exact ⟨rfl, rfl⟩
  | some p =>
    rw [← hawaiting]
    exact ⟨rfl, rfl⟩

end Served

end RouterEnd

/-! ## Whole requests -/

/-- A write that is one whole request. -/
structure Packet.WrittenAs (p : Packet) (write : Bytes) : Prop where
  encoded : p.encode = .ok write
  direction : p.direction = .hostToRouter
  version : p.version = protocolVersion

theorem Packet.WrittenAs.validFrame {p : Packet} {write : Bytes} (h : p.WrittenAs write) :
    ValidFrame .hostToRouter p write where
  encoded := h.encoded
  direction := h.direction
  delimited := by
    refine ⟨h.version, fun r hr => ?_⟩
    have hdirection := h.direction
    rw [hr] at hdirection
    cases hdirection

/-- Whole frames in a row are read as the packets that they are, with nothing between them and
nothing left. -/
theorem Reads.of_frames {d : Direction} {ps : List Packet} {frames : List Bytes}
    (h : List.Forall₂ (ValidFrame d) ps frames) :
    Reads d frames.flatten (List.zipWith .packet ps frames) [] := by
  induction h with
  | nil => exact .wait (waiting_nil d)
  | cons hframe _ ih => exact .of_frame hframe ih

theorem Piece.packets_zipWith {ps : List Packet} {frames : List Bytes}
    (h : ps.length = frames.length) :
    (packets (List.zipWith .packet ps frames)).map Prod.fst = ps := by
  induction ps generalizing frames with
  | nil => rfl
  | cons p ps ih =>
    cases frames with
    | nil => cases h
    | cons frame frames => exact congrArg (p :: ·) (ih (Nat.succ.inj h))

/-- **Of frames that are written one after another, a fresh framer finds each.** -/
theorem RouterEnd.packetsOf_feed {d : Direction} {ps : List Packet} {frames : List Bytes}
    (h : List.Forall₂ (ValidFrame d) ps frames) :
    packetsOf ((Framer.fresh d).feed frames).1 = ps := by
  have hreads := Framer.reads_feed_fresh d frames
  rw [← map_fst_packets, packets_eq, (hreads.unique (.of_frames h)).1,
    Piece.packets_zipWith h.length_eq]

end SensorLink
