import SensorLink.Proofs.Framer.Delimited
import SensorLink.Proofs.Framer.Frames

/-!
# Nothing but what was on the wire

A framer is used through four calls, in any order: it is given bytes, asked for the next event,
asked for all of them, told to forget. This file is about every such use:

> **each packet that is found is, byte for byte, the encoding it was cut out as; each loss is a
> search for the next start; and the bytes of the events, with what is still held, are the bytes
> that were given** (`run_conserved`).

`next` has a third branch, which gives up a whole frame that does not decode. It is there because a
length and a decoder are separate readings of one header. They agree (`exists_validFrame`), so the
branch is never taken: what a step takes is one of two things (`Step`).
-/

namespace SensorLink

open Wire

/-- What an event promises about the bytes it stands for: a frame is its packet's encoding and as
long as it announces, a loss is what a search gave up. -/
def FramerEvent.OnWire (d : Direction) : FramerEvent → Prop
  | .packet p raw => p.encode = .ok raw ∧ p.direction = d ∧ p.version = protocolVersion ∧
      frameLength d raw = .ok (some raw.length)
  | .discarded cause dropped => ∃ first rest kept, frameLength d (first :: rest) = .error cause ∧
      Framer.resync d first rest = (dropped, kept)

namespace Framer

/-! ## What a step takes -/

/-- An event that was taken from the front of some bytes, and the bytes behind it. -/
inductive Step (d : Direction) : Bytes → FramerEvent → Bytes → Prop where
  | frame {p : Packet} {raw kept : Bytes} (valid : ValidFrame d p raw) :
      Step d (raw ++ kept) (.packet p raw) kept
  | search {first : UInt8} {rest dropped kept : Bytes} {cause : Malformed}
      (refused : frameLength d (first :: rest) = .error cause)
      (found : resync d first rest = (dropped, kept)) :
      Step d (first :: rest) (.discarded cause dropped) kept

/-- **A whole frame decodes**, so that a step has nothing else to say of it. -/
theorem step_of_next {framer after : Framer} {event : FramerEvent}
    (h : framer.next = some (event, after)) :
    Step framer.direction framer.buffer event after.buffer := by
  obtain ⟨d, bytes⟩ := framer
  show Step d bytes event after.buffer
  cases front d bytes with
  | waiting hwait =>
    rw [next_of_waiting hwait] at h
    cases h
  | noise herr =>
    rw [next_of_error herr] at h
    cases h
    exact .search herr rfl
  | frame hlen =>
    obtain ⟨p, hvalid⟩ := exists_validFrame hlen
    rw [next_of_frame hlen, FramerEvent.ofFrame, hvalid.decode_eq] at h
    cases h
    exact .frame hvalid

namespace Step

variable {d : Direction} {bytes kept : Bytes} {event : FramerEvent}

theorem bytes_eq (h : Step d bytes event kept) : bytes = event.bytes ++ kept := by
  cases h with
  | frame _ => rfl
  | @search first rest dropped _ _ _ found =>
    cases found
    show first :: rest = first :: ((splitAtStart d rest).1 ++ (splitAtStart d rest).2)
    rw [splitAtStart_append]

/-- What a step reports was made of the very bytes that it took. -/
theorem onWire (h : Step d bytes event kept) : event.OnWire d := by
  cases h with
  | @frame p raw _ valid =>
    refine ⟨valid.encoded, valid.direction, valid.delimited.version, ?_⟩
    have hlen := valid.frameLength_eq []
    rwa [List.append_nil] at hlen
  | search refused found => exact ⟨_, _, _, refused, found⟩

end Step

/-! ## What a drain takes -/

/-- Events that were taken one behind the other, and the bytes behind the last. -/
inductive Takes (d : Direction) : Bytes → List FramerEvent → Bytes → Prop where
  | nothing {bytes : Bytes} : Takes d bytes [] bytes
  | more {bytes between kept : Bytes} {event : FramerEvent} {events : List FramerEvent}
      (first : Step d bytes event between) (later : Takes d between events kept) :
      Takes d bytes (event :: events) kept

theorem takes_drain (framer : Framer) :
    Takes framer.direction framer.buffer framer.drain.1 framer.drain.2.buffer := by
  induction framer using drain.induct with
  | case1 framer hnone =>
    rw [drain_of_none hnone]
    exact .nothing
  | case2 framer event after hsome _ _ _ ih =>
    rw [drain_of_some hsome]
    rw [(next_bytes hsome).2] at ih
    exact .more (step_of_next hsome) ih

namespace Takes

variable {d : Direction} {bytes kept : Bytes} {events : List FramerEvent}

/-- **No byte is lost and none is made up**: the bytes of the events, in order, and then those that
were kept are the bytes that there were. -/
theorem bytes_eq (h : Takes d bytes events kept) :
    bytes = events.flatMap FramerEvent.bytes ++ kept := by
  induction h with
  | nothing => rfl
  | more first _ ih => rw [first.bytes_eq, ih, List.flatMap_cons, List.append_assoc]

theorem onWire (h : Takes d bytes events kept) : ∀ event ∈ events, event.OnWire d := by
  induction h with
  | nothing => exact nofun
  | more first _ ih =>
    intro event hevent
    rcases List.mem_cons.mp hevent with rfl | hlater
    · exact first.onWire
    · exact ih event hlater

end Takes

/-- Chunks that are fed to a framer come out again, but for what it still holds. -/
theorem feed_bytes (framer : Framer) (chunks : List Bytes) :
    framer.buffer ++ chunks.flatten =
      (framer.feed chunks).1.flatMap FramerEvent.bytes ++ (framer.feed chunks).2.buffer := by
  induction chunks generalizing framer with
  | nil => exact List.append_nil _
  | cons chunk chunks ih =>
    have hchunk : framer.buffer ++ chunk = _ := (takes_drain (framer.push chunk)).bytes_eq
    rw [List.flatten_cons, ← List.append_assoc, hchunk, List.append_assoc, ih, feed_cons,
      List.flatMap_append, List.append_assoc]

/-! ## A framer in use -/

inductive Call where
  | push (bytes : Bytes)
  | next
  | drain
  | clear

/-- A framer, and the record of its use: all that it has said, and, since it was last told to
forget, what it has said and what it was given. -/
structure Session where
  framer : Framer
  said : List FramerEvent := []
  taken : List FramerEvent := []
  given : Bytes := []

namespace Session

def start (d : Direction) : Session := { framer := fresh d }

/-- The framer has said these events and is now another. -/
def answered (s : Session) (events : List FramerEvent) (framer : Framer) : Session :=
  { s with framer, said := s.said ++ events, taken := s.taken ++ events }

def call (s : Session) : Call → Session
  | .push bytes => { s with framer := s.framer.push bytes, given := s.given ++ bytes }
  | .next =>
    match s.framer.next with
    | none => s
    | some (event, after) => s.answered [event] after
  | .drain => s.answered s.framer.drain.1 s.framer.drain.2
  | .clear => { s with framer := s.framer.clear, taken := [], given := [] }

def run (s : Session) (calls : List Call) : Session := calls.foldl call s

/-- What every use keeps. -/
structure Conserved (d : Direction) (s : Session) : Prop where
  direction : s.framer.direction = d
  onWire : ∀ event ∈ s.said, event.OnWire d
  given_eq : s.given = s.taken.flatMap FramerEvent.bytes ++ s.framer.buffer

namespace Conserved

variable {d : Direction} {s : Session}

theorem start : Conserved d (start d) where
  direction := rfl
  onWire := nofun
  given_eq := rfl

/-- Any answer that is given by taking bytes from the front conserves them, whichever call has asked
for it. -/
theorem answered {events : List FramerEvent} {after : Framer} (h : Conserved d s)
    (hdirection : after.direction = s.framer.direction)
    (htakes : Takes s.framer.direction s.framer.buffer events after.buffer) :
    Conserved d (s.answered events after) := by
  rw [h.direction] at hdirection htakes
  refine ⟨hdirection, ?_, ?_⟩
  · intro event hevent
    rcases List.mem_append.mp hevent with hbefore | hnow
    · exact h.onWire event hbefore
    · exact htakes.onWire event hnow
  · show s.given = (s.taken ++ events).flatMap FramerEvent.bytes ++ after.buffer
    rw [h.given_eq, htakes.bytes_eq, List.flatMap_append, List.append_assoc]

theorem call (h : Conserved d s) (c : Call) : Conserved d (s.call c) := by
  cases c with
  | push bytes =>
    refine ⟨h.direction, h.onWire, ?_⟩
    show s.given ++ bytes = s.taken.flatMap FramerEvent.bytes ++ (s.framer.buffer ++ bytes)
    rw [h.given_eq, List.append_assoc]
  | next =>
    unfold Session.call
    cases hnext : s.framer.next with
    | none => exact h
    | some step =>
      obtain ⟨event, after⟩ := step
      exact h.answered (next_bytes hnext).2 (.more (step_of_next hnext) .nothing)
  | drain => exact h.answered (drain_direction _) (takes_drain _)
  | clear => exact ⟨h.direction, h.onWire, rfl⟩

theorem run (h : Conserved d s) (calls : List Call) : Conserved d (s.run calls) := by
  induction calls generalizing s with
  | nil => exact h
  | cons c calls ih => exact ih (h.call c)

end Conserved

/-- **Whatever calls are made, nothing comes out but what was on the wire.** A packet's bytes are
its encoding, have the length that they announce and the version that is spoken; a whole frame
always decodes, so that a loss is a search; and since the framer was last told to forget, the bytes
of its events and the bytes that it still holds are those that it was given. -/
theorem run_conserved (d : Direction) (calls : List Call) :
    let s := (start d).run calls
    s.framer.direction = d ∧
    (∀ p raw, .packet p raw ∈ s.said → p.encode = .ok raw ∧ p.direction = d ∧
      p.version = protocolVersion ∧ frameLength d raw = .ok (some raw.length)) ∧
    (∀ raw kept, frameLength d (raw ++ kept) = .ok (some raw.length) →
      ∃ p, Packet.decode d raw = .ok p ∧ next ⟨d, raw ++ kept⟩ = some (.packet p raw, ⟨d, kept⟩)) ∧
    (∀ cause dropped, .discarded cause dropped ∈ s.said → ∃ first rest kept,
      frameLength d (first :: rest) = .error cause ∧ resync d first rest = (dropped, kept)) ∧
    s.given = s.taken.flatMap FramerEvent.bytes ++ s.framer.buffer := by
  intro s
  have h : Conserved d s := Conserved.start.run calls
  refine ⟨h.direction, fun p raw hp => h.onWire _ hp, ?_, fun cause dropped hc => h.onWire _ hc,
    h.given_eq⟩
  intro raw kept hlen
  obtain ⟨p, hvalid⟩ := exists_validFrame hlen
  refine ⟨p, hvalid.decode_eq, ?_⟩
  rw [next_of_frame hlen, FramerEvent.ofFrame, hvalid.decode_eq]

end Session
end Framer
end SensorLink
