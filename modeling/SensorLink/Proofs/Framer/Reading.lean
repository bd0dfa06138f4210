import SensorLink.Framer
import SensorLink.Proofs.Packet.Prefix

/-!
# What a stream says, apart from how it is read

A framer that skips from one plausible start to the next reports its losses in runs, and where a
run ends depends on how much had arrived when it looked: a lone `0x01` at the end of the buffer is
a plausible start until the byte after it says otherwise. So two framers that see the same bytes
in different chunks do not report the same events, and there is no equation between event lists to
prove.

`Reads` is what they do agree on. It reads bytes one decision at a time, gives up exactly one byte
where no frame starts, and knows nothing of buffers, runs or chunks. Three facts make it the
invariant of every run:

> **a drain is a reading of the buffer** (`reads_drain`);
>
> **readings of consecutive pieces of a stream join to a reading of the whole** (`Reads.append`),
> because what has been decided stays decided;
>
> **the bytes determine their reading** (`Reads.unique`).
-/

namespace SensorLink

open Wire

/-! ## Events without their grouping -/

/-- One thing that reading a stream can come to: a byte that belongs to no packet, or a packet. -/
inductive Piece where
  | noise (byte : UInt8)
  | packet (packet : Packet) (raw : Bytes)
  deriving DecidableEq, Repr

def FramerEvent.pieces : FramerEvent → List Piece
  | .packet p raw => [.packet p raw]
  | .discarded _ dropped => dropped.map .noise

def pieces (events : List FramerEvent) : List Piece := events.flatMap FramerEvent.pieces

@[simp] theorem pieces_nil : pieces [] = [] := rfl

@[simp] theorem pieces_cons (event : FramerEvent) (events : List FramerEvent) :
    pieces (event :: events) = event.pieces ++ pieces events := rfl

/-- Pieces do not remember the events that they came in. -/
@[simp] theorem pieces_append (events later : List FramerEvent) :
    pieces (events ++ later) = pieces events ++ pieces later :=
  List.flatMap_append

/-- What a framer says of a frame that is all there. -/
def FramerEvent.ofFrame (d : Direction) (raw : Bytes) : FramerEvent :=
  match Packet.decode d raw with
  | .ok p => .packet p raw
  | .error cause => .discarded cause raw

/-! ## The front of a buffer

Three things can stand there, and no two of them at once. Everything below splits on them. -/

/-- Nothing can be said yet: the length is not known, or not all of the frame is there. -/
def Waiting (d : Direction) (bytes : Bytes) : Prop :=
  frameLength d bytes = .ok none ∨ ∃ n, frameLength d bytes = .ok (some n) ∧ bytes.length < n

inductive Front (d : Direction) : Bytes → Prop where
  | waiting {bytes : Bytes} (h : Waiting d bytes) : Front d bytes
  | noise {first : UInt8} {rest : Bytes} {cause : Malformed}
      (h : frameLength d (first :: rest) = .error cause) : Front d (first :: rest)
  | frame {raw kept : Bytes} (h : frameLength d (raw ++ kept) = .ok (some raw.length)) :
      Front d (raw ++ kept)

theorem front (d : Direction) (bytes : Bytes) : Front d bytes := by
  cases hlen : frameLength d bytes with
  | error cause =>
    cases bytes with
    | nil => simp [frameLength] at hlen
    | cons first rest => exact .noise hlen
  | ok known =>
    cases known with
    | none => exact .waiting (Or.inl hlen)
    | some n =>
      by_cases hn : bytes.length < n
      · exact .waiting (Or.inr ⟨n, hlen, hn⟩)
      · have hsplit : bytes.take n ++ bytes.drop n = bytes := List.take_append_drop n bytes
        have htake : (bytes.take n).length = n := List.length_take_of_le (by omega)
        rw [← hsplit]
        exact .frame (by rw [hsplit, hlen, htake])

theorem waiting_nil (d : Direction) : Waiting d [] := Or.inl rfl

theorem Waiting.ne_error {d : Direction} {bytes : Bytes} {cause : Malformed}
    (h : Waiting d bytes) : frameLength d bytes ≠ .error cause := by
  rcases h with h | ⟨n, h, _⟩ <;> simp [h]

/-- Where the length is known and waiting goes on, some of the frame is missing. -/
theorem Waiting.length_lt {d : Direction} {bytes : Bytes} {n : Nat} (h : Waiting d bytes)
    (hlen : frameLength d bytes = .ok (some n)) : bytes.length < n := by
  rcases h with h | ⟨m, h, hlt⟩
  · simp [h] at hlen
  · rw [h] at hlen
    cases hlen
    exact hlt

theorem Waiting.ne_frame {d : Direction} {raw kept : Bytes} (h : Waiting d (raw ++ kept)) :
    frameLength d (raw ++ kept) ≠ .ok (some raw.length) := by
  intro hlen
  have := h.length_lt hlen
  rw [List.length_append] at this
  omega

namespace Framer

theorem next_of_waiting {d : Direction} {bytes : Bytes} (h : Waiting d bytes) :
    next ⟨d, bytes⟩ = none := by
  match bytes with
  | [] => rfl
  | first :: rest =>
    rcases h with h | ⟨n, h, hlt⟩
    · simp only [next, h]
    · simp only [next, h, take?_eq_none_iff.mpr hlt]

/-- A framer gives up more than the one byte that is wrong: it goes on to where a frame could start.
Only the bytes count for a reading, not how many were given up together. -/
theorem next_of_error {d : Direction} {first : UInt8} {rest : Bytes} {cause : Malformed}
    (h : frameLength d (first :: rest) = .error cause) :
    next ⟨d, first :: rest⟩ =
      some (.discarded cause (first :: (splitAtStart d rest).1), ⟨d, (splitAtStart d rest).2⟩) := by
  simp only [next, h, resync]

/-- A frame that is all there is taken whole, whatever stands behind it. -/
theorem next_of_frame {d : Direction} {raw kept : Bytes}
    (h : frameLength d (raw ++ kept) = .ok (some raw.length)) :
    next ⟨d, raw ++ kept⟩ = some (.ofFrame d raw, ⟨d, kept⟩) := by
  have htake : take? raw.length (raw ++ kept) = some (raw, kept) :=
    take?_eq_some_iff.mpr ⟨rfl, rfl⟩
  match hbytes : raw ++ kept with
  | [] => simp [hbytes, frameLength] at h
  | first :: rest =>
    rw [hbytes] at h htake
    simp only [next, h, htake, FramerEvent.ofFrame]
    cases Packet.decode d raw with
    | ok p => rfl
    | error cause => rfl

theorem drain_of_none {framer : Framer} (h : framer.next = none) : framer.drain = ([], framer) := by
  rw [drain]
  split
  · rfl
  · rename_i heq
    rw [h] at heq
    cases heq

theorem drain_of_some {framer after : Framer} {event : FramerEvent}
    (h : framer.next = some (event, after)) :
    framer.drain = (event :: after.drain.1, after.drain.2) := by
  rw [drain]
  split
  · rename_i heq
    rw [h] at heq
    cases heq
  · rename_i heq
    rw [h] at heq
    cases heq
    rfl

end Framer

/-! ## Readings -/

/-- Reading `bytes` comes to these pieces and stops before the bytes that are left. -/
inductive Reads (d : Direction) : Bytes → List Piece → Bytes → Prop where
  | wait {bytes : Bytes} (h : Waiting d bytes) : Reads d bytes [] bytes
  | noise {first : UInt8} {rest left : Bytes} {cause : Malformed} {found : List Piece}
      (h : frameLength d (first :: rest) = .error cause) (later : Reads d rest found left) :
      Reads d (first :: rest) (.noise first :: found) left
  | frame {bytes raw kept left : Bytes} {found : List Piece} (hsplit : bytes = raw ++ kept)
      (h : frameLength d bytes = .ok (some raw.length)) (later : Reads d kept found left) :
      Reads d bytes ((FramerEvent.ofFrame d raw).pieces ++ found) left

namespace Reads

/-- **A reading of the bytes so far goes on where it stopped.** What it has decided does not
change when more bytes arrive, so the reading of a whole stream can be cut anywhere. -/
theorem append {d : Direction} {front left more left' : Bytes} {found found' : List Piece}
    (h : Reads d front found left) (h' : Reads d (left ++ more) found' left') :
    Reads d (front ++ more) (found ++ found') left' := by
  induction h with
  | wait _ => exact h'
  | noise herr _ ih => exact .noise (frameLength_append_error more herr) (ih h')
  | @frame bytes raw kept _ _ hsplit hlen _ ih =>
    rw [List.append_assoc]
    refine .frame ?_ (frameLength_append_ok more hlen) (ih h')
    rw [hsplit, List.append_assoc]

/-- What stands at the front of the bytes settles which rule of a reading applies, so there is no
choice at any step. -/
theorem unique {d : Direction} {bytes left left' : Bytes} {found found' : List Piece}
    (h : Reads d bytes found left) (h' : Reads d bytes found' left') :
    found = found' ∧ left = left' := by
  -- At each place a reading waits, gives up a byte or takes a frame, and the bytes leave no choice.
  induction h generalizing found' left' with
  | wait hwait =>
    cases h' with
    | wait _ => exact ⟨rfl, rfl⟩
    | noise herr _ => exact absurd herr hwait.ne_error
    | frame hsplit hlen _ =>
      subst hsplit
      exact absurd hlen hwait.ne_frame
  | noise herr _ ih =>
    cases h' with
    | wait hwait => exact absurd herr hwait.ne_error
    | noise _ later =>
      obtain ⟨rfl, rfl⟩ := ih later
      exact ⟨rfl, rfl⟩
    | frame _ hlen _ => simp [hlen] at herr
  | @frame bytes raw kept _ _ hsplit hlen _ ih =>
    cases h' with
    | wait hwait =>
      subst hsplit
      exact absurd hlen hwait.ne_frame
    | noise herr _ => simp [hlen] at herr
    | @frame _ raw' kept' _ _ hsplit' hlen' later =>
      rw [hlen] at hlen'
      simp only [Except.ok.injEq, Option.some.injEq] at hlen'
      obtain ⟨rfl, rfl⟩ := List.append_inj (hsplit.symm.trans hsplit') hlen'
      obtain ⟨rfl, rfl⟩ := ih later
      exact ⟨rfl, rfl⟩

/-- Bytes that are skipped on the way to the next plausible start are noise one by one. -/
theorem of_splitAtStart {d : Direction} {bytes left : Bytes} {found : List Piece}
    (h : Reads d (Framer.splitAtStart d bytes).2 found left) :
    Reads d bytes ((Framer.splitAtStart d bytes).1.map .noise ++ found) left := by
  induction bytes with
  | nil => exact h
  | cons b rest ih =>
    cases hb : plausibleStart d (b :: rest) with
    | true =>
      simp only [Framer.splitAtStart, hb, if_true] at h ⊢
      exact h
    | false =>
      simp only [Framer.splitAtStart, hb] at h ⊢
      obtain ⟨cause, herr⟩ := frameLength_of_not_plausible hb
      exact .noise herr (ih h)

end Reads

/-! ## Drains and feeds are readings -/

namespace Framer

/-- **A drain is a reading of the buffer.** Its runs of noise are given up byte by byte there, and
come to the same rest. -/
theorem reads_drain (framer : Framer) :
    Reads framer.direction framer.buffer (pieces framer.drain.1) framer.drain.2.buffer := by
  induction framer using drain.induct with
  | case1 framer hnone =>
    obtain ⟨d, bytes⟩ := framer
    rw [drain_of_none hnone]
    cases front d bytes with
    | waiting hwait => exact .wait hwait
    | noise herr => simp [next_of_error herr] at hnone
    | frame hlen => simp [next_of_frame hlen] at hnone
  | case2 framer event after hsome _ _ _ ih =>
    obtain ⟨d, bytes⟩ := framer
    rw [drain_of_some hsome]
    cases front d bytes with
    | waiting hwait => simp [next_of_waiting hwait] at hsome
    | noise herr =>
      simp only [next_of_error herr, Option.some.injEq, Prod.mk.injEq] at hsome
      obtain ⟨rfl, rfl⟩ := hsome
      -- One event, many bytes: the step skips in one go what a reading gives up one by one.
      exact .noise herr (.of_splitAtStart ih)
    | frame hlen =>
      simp only [next_of_frame hlen, Option.some.injEq, Prod.mk.injEq] at hsome
      obtain ⟨rfl, rfl⟩ := hsome
      exact .frame rfl hlen ih

end Framer
end SensorLink
