import SensorLink.Packet.Length

/-!
# Cutting a stream of bytes into packets

A `Framer` holds the bytes that have been received and not yet been used. `next` takes the frame at
the front once all of it is there. Where no frame can start at the front, it gives up the bytes up
to the next place where one could, and reports them: noise on the line costs what it covers and
never stops the stream.

`next` is the only step; `drain` repeats it. Each step that says something takes at least one byte
(`next_shorter`), so a drain ends.
-/

namespace SensorLink

/-- What a framer says. -/
inductive FramerEvent where
  /-- A whole frame and what it decodes to. -/
  | packet (packet : Packet) (raw : Bytes)
  /-- Bytes that were given up, and why. -/
  | discarded (cause : Malformed) (dropped : Bytes)
  deriving DecidableEq, Repr

/-- The bytes that an event took from the front of the buffer. -/
def FramerEvent.bytes : FramerEvent → Bytes
  | .packet _ raw => raw
  | .discarded _ dropped => dropped

/-- Bytes received in one direction and not yet used. -/
@[ext]
structure Framer where
  direction : Direction
  buffer : Bytes := []
  deriving DecidableEq, Repr

namespace Framer

/-- A framer that has received nothing. -/
def fresh (direction : Direction) : Framer := { direction }

/-- Takes in more bytes. -/
def push (framer : Framer) (bytes : Bytes) : Framer :=
  { framer with buffer := framer.buffer ++ bytes }

/-- Forgets all bytes. -/
def clear (framer : Framer) : Framer := { framer with buffer := [] }

/-- The bytes before the first place at which a frame could start, and those from there on. -/
def splitAtStart (direction : Direction) : Bytes → Bytes × Bytes
  | [] => ([], [])
  | b :: rest =>
    if plausibleStart direction (b :: rest) then ([], b :: rest)
    else
      let (noise, after) := splitAtStart direction rest
      (b :: noise, after)

/-- Splitting loses nothing. -/
theorem splitAtStart_append (direction : Direction) (bytes : Bytes) :
    (splitAtStart direction bytes).1 ++ (splitAtStart direction bytes).2 = bytes := by
  induction bytes with
  | nil => rfl
  | cons b rest ih =>
    unfold splitAtStart
    split
    · rfl
    · simp [ih]

/-- Gives up the front byte and what follows it up to the next possible start. -/
def resync (direction : Direction) (first : UInt8) (rest : Bytes) : Bytes × Bytes :=
  let (noise, after) := splitAtStart direction rest
  (first :: noise, after)

/-- The next thing that the bytes in the buffer say, and the framer after it; `none` if more bytes
are needed first. -/
def next (framer : Framer) : Option (FramerEvent × Framer) :=
  match framer.buffer with
  | [] => none
  | first :: rest =>
    match frameLength framer.direction (first :: rest) with
    | .error cause =>
      let (dropped, kept) := resync framer.direction first rest
      some (.discarded cause dropped, { framer with buffer := kept })
    | .ok none => none
    | .ok (some length) =>
      match Wire.take? length (first :: rest) with
      | none => none
      | some (raw, kept) =>
        match Packet.decode framer.direction raw with
        | .ok packet => some (.packet packet raw, { framer with buffer := kept })
        -- The end of the frame is known even though it says nothing, so no byte behind it is lost.
        | .error cause => some (.discarded cause raw, { framer with buffer := kept })

/-- A step takes its event's bytes from the front of the buffer and leaves the rest. -/
theorem next_bytes {framer after : Framer} {event : FramerEvent}
    (h : framer.next = some (event, after)) :
    framer.buffer = event.bytes ++ after.buffer ∧ after.direction = framer.direction := by
  unfold next at h
  split at h
  · cases h
  rename_i first rest hbuf
  split at h
  · simp only [resync, Option.some.injEq, Prod.mk.injEq] at h
    obtain ⟨rfl, rfl⟩ := h
    refine ⟨?_, rfl⟩
    rw [hbuf]
    simp only [FramerEvent.bytes, List.cons_append, splitAtStart_append]
  · cases h
  · split at h
    · cases h
    · rename_i htake
      have hsplit := (Wire.take?_eq_some_iff.mp htake).1
      split at h
      · simp only [Option.some.injEq, Prod.mk.injEq] at h
        obtain ⟨rfl, rfl⟩ := h
        exact ⟨by rw [hbuf, hsplit]; rfl, rfl⟩
      · simp only [Option.some.injEq, Prod.mk.injEq] at h
        obtain ⟨rfl, rfl⟩ := h
        exact ⟨by rw [hbuf, hsplit]; rfl, rfl⟩

/-- A step takes at least one byte. -/
theorem next_shorter {framer after : Framer} {event : FramerEvent}
    (h : framer.next = some (event, after)) : after.buffer.length < framer.buffer.length := by
  have hbytes := (next_bytes h).1
  suffices event.bytes ≠ [] by
    rw [hbytes, List.length_append]
    have := List.length_pos_iff.mpr this
    omega
  unfold next at h
  split at h
  · cases h
  split at h
  · simp only [resync, Option.some.injEq, Prod.mk.injEq] at h
    obtain ⟨rfl, rfl⟩ := h
    simp [FramerEvent.bytes]
  · cases h
  · rename_i hlen
    have h7 := seven_le_frameLength hlen
    split at h
    · cases h
    · rename_i htake
      have hraw := (Wire.take?_eq_some_iff.mp htake).2
      split at h
      all_goals
        simp only [Option.some.injEq, Prod.mk.injEq] at h
        obtain ⟨rfl, rfl⟩ := h
        simp only [FramerEvent.bytes, ne_eq, ← List.length_eq_zero_iff]
        omega

/-- Everything that the bytes in the buffer say, and the framer that waits for more. -/
def drain (framer : Framer) : List FramerEvent × Framer :=
  match _h : framer.next with
  | none => ([], framer)
  | some (event, after) =>
    let (events, last) := drain after
    (event :: events, last)
termination_by framer.buffer.length
decreasing_by exact next_shorter _h

/-- Takes in one byte after another and drains after each. -/
def trickle (framer : Framer) : Bytes → List FramerEvent × Framer
  | [] => ([], framer)
  | b :: rest =>
    let (now, framer) := (framer.push [b]).drain
    let (later, framer) := trickle framer rest
    (now ++ later, framer)

end Framer
end SensorLink
