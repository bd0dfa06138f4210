import SensorLink.Proofs.Framer.Conservation
import SensorLink.Proofs.Packet.Decision

/-!
# What a framer holds back

Bytes that a framer has taken in and said nothing about are a debt. If noise could run it up, a link
would fill its memory and go quiet without an error; if some front could never be completed, every
byte behind it would wait for ever. Nowhere in the framer is there a limit that forbids either. Both
follow from what it waits for:

> **a framer waits on exactly the proper beginnings of valid frames** (`waiting_iff_unfinished`).

So what is held after a drain is shorter than the longest frame there is, and the bytes that would
release it exist. The limit is not generous: in each direction there are bytes one short of it that a
framer does wait on.
-/

namespace SensorLink

/-- The beginning of a valid frame, and not all of it. -/
def Unfinished (d : Direction) (bytes : Bytes) : Prop :=
  ∃ more p, more ≠ [] ∧ ValidFrame d p (bytes ++ more)

/-! ## What is waited for can come -/

theorem exists_completion {d : Direction} {bytes : Bytes} {n : Nat}
    (h : frameLength d bytes = .ok (some n)) (hle : bytes.length ≤ n) :
    ∃ more p, ValidFrame d p (bytes ++ more) := by
  have hlen : (bytes ++ List.replicate (n - bytes.length) 0).length = n := by
    rw [List.length_append, List.length_replicate]
    omega
  refine ⟨List.replicate (n - bytes.length) 0, frameLength_self_iff.mp ?_⟩
  rw [hlen]
  exact frameLength_append_ok _ h

/-- What a framer keeps has the beginning of a frame in it, or too little to tell. -/
theorem unfinished_of_waiting {d : Direction} {bytes : Bytes} (h : Waiting d bytes) :
    Unfinished d bytes := by
  have hcompletion : ∃ more p, ValidFrame d p (bytes ++ more) := by
    rcases h with hunknown | ⟨n, hn, hlt⟩
    · obtain ⟨more, n, hn, hle⟩ := exists_length hunknown
      obtain ⟨rest, p, hvalid⟩ := exists_completion hn hle
      exact ⟨more ++ rest, p, by rwa [← List.append_assoc]⟩
    · exact exists_completion hn (Nat.le_of_lt hlt)
  obtain ⟨more, p, hvalid⟩ := hcompletion
  refine ⟨more, p, ?_, hvalid⟩
  rintro rfl
  have hwhole := frameLength_self_iff.mpr ⟨p, hvalid⟩
  rw [List.append_nil] at hwhole
  exact Nat.lt_irrefl _ (h.length_lt hwhole)

/-- And it keeps everything that has. -/
theorem waiting_iff_unfinished {d : Direction} {bytes : Bytes} :
    Waiting d bytes ↔ Unfinished d bytes := by
  constructor
  · exact unfinished_of_waiting
  · rintro ⟨more, p, hmore, hvalid⟩
    have hwhole := frameLength_self_iff.mpr ⟨p, hvalid⟩
    cases hlen : frameLength d bytes with
    | error cause =>
      rw [frameLength_append_error more hlen] at hwhole
      cases hwhole
    | ok known =>
      cases known with
      | none => exact .inl hlen
      | some n =>
        rw [frameLength_append_ok more hlen] at hwhole
        cases hwhole
        have hpos := List.length_pos_iff.mpr hmore
        refine .inr ⟨_, hlen, ?_⟩
        rw [List.length_append]
        omega

theorem Unfinished.length_lt {d : Direction} {bytes : Bytes} (h : Unfinished d bytes) :
    bytes.length < longestFrame d := by
  obtain ⟨more, p, hmore, hvalid⟩ := h
  have hwhole := frameLength_le (frameLength_self_iff.mpr ⟨p, hvalid⟩)
  have hpos := List.length_pos_iff.mpr hmore
  rw [List.length_append] at hwhole
  omega

/-- What is kept starts like a frame; if it did not, it would have been given up. -/
theorem Waiting.startsFrame {d : Direction} {bytes : Bytes} (h : Waiting d bytes)
    (hne : bytes ≠ []) : plausibleStart d bytes = true := by
  rcases h with hunknown | ⟨n, hn, -⟩
  · exact plausibleStart_of_ok hne hunknown
  · exact plausibleStart_of_ok hne hn

/-! ## The limit is reached -/

/-- Of a frame with a length that is known, all but the last byte can be waiting. -/
theorem exists_waiting {d : Direction} {front : Bytes} {n : Nat}
    (h : frameLength d front = .ok (some n)) (hlt : front.length < n) :
    ∃ bytes, Waiting d bytes ∧ bytes.length + 1 = n := by
  have hlen : (front ++ List.replicate (n - 1 - front.length) 0).length + 1 = n := by
    rw [List.length_append, List.length_replicate]
    omega
  exact ⟨_, .inr ⟨n, frameLength_append_ok _ h, by omega⟩, hlen⟩

theorem exists_waiting_longest (d : Direction) :
    ∃ bytes, Waiting d bytes ∧ bytes.length + 1 = longestFrame d := by
  cases d with
  | hostToRouter =>
    have hfront : frameLength .hostToRouter [0x01, 0x00, 0x00, 0x04] =
        .ok (some (longestFrame .hostToRouter)) := rfl
    exact exists_waiting hfront (by decide)
  | routerToHost =>
    -- The answer to "all devices", whose first byte of payload counts 255 of them.
    have hfront : frameLength .routerToHost
        [0x01, 0x02, 0, 0, 0, 0, 0xCF, 0, 0, 0, 0, 0, 0, 0, 0, 0xFF] =
        .ok (some (longestFrame .routerToHost)) := rfl
    exact exists_waiting hfront (by decide)

namespace Framer

/-! ## After a drain -/

/-- However much there was in the buffer, a drain leaves only what has to wait. -/
theorem waiting_drain (framer : Framer) : Waiting framer.direction framer.drain.2.buffer :=
  (reads_drain framer).waiting

/-- Every event is paid for with a byte. -/
theorem length_drain_le (framer : Framer) :
    framer.drain.1.length + framer.drain.2.buffer.length ≤ framer.buffer.length := by
  induction framer using drain.induct with
  | case1 framer hnone =>
    rw [drain_of_none hnone]
    exact Nat.le_of_eq (Nat.zero_add _)
  | case2 framer event after hsome _ _ _ ih =>
    have hshorter := next_shorter hsome
    rw [drain_of_some hsome]
    show (event :: after.drain.1).length + after.drain.2.buffer.length ≤ framer.buffer.length
    rw [List.length_cons]
    omega

theorem Session.call_of_next_none {s : Session} (h : s.framer.next = none) :
    s.call .next = s ∧ s.call .drain = s := by
  constructor
  · simp only [call, h]
  · simp only [call, drain_of_none h, answered, List.append_nil]

/-- **A framer always gets on, and what it holds back is the beginning of one frame.** -/
theorem drain_settles (framer : Framer) :
    (∀ event after, framer.next = some (event, after) →
      framer.buffer = event.bytes ++ after.buffer ∧ after.buffer.length < framer.buffer.length) ∧
    (∀ s : Session, s.framer = framer → framer.next = none →
      s.call .next = s ∧ s.call .drain = s) ∧
    framer.drain.1.length ≤ framer.buffer.length ∧
    framer.drain.2.next = none ∧
    (framer.drain.2.buffer = [] ∨
      plausibleStart framer.direction framer.drain.2.buffer = true ∧
      Unfinished framer.direction framer.drain.2.buffer) ∧
    framer.drain.2.buffer.length < longestFrame framer.direction ∧
    ∃ full : Framer, full.direction = framer.direction ∧ full.next = none ∧
      full.buffer.length + 1 = longestFrame framer.direction := by
  have hwaiting := waiting_drain framer
  have hunfinished := unfinished_of_waiting hwaiting
  refine ⟨fun event after h => ⟨(next_bytes h).1, next_shorter h⟩, ?_, ?_, ?_, ?_,
    hunfinished.length_lt, ?_⟩
  · rintro s rfl hnone
    exact Session.call_of_next_none hnone
  · exact Nat.le_of_add_right_le (length_drain_le framer)
  · rw [← drain_direction] at hwaiting
    exact next_of_waiting hwaiting
  · by_cases hempty : framer.drain.2.buffer = []
    · exact .inl hempty
    · exact .inr ⟨hwaiting.startsFrame hempty, hunfinished⟩
  · obtain ⟨bytes, hbytes, hlength⟩ := exists_waiting_longest framer.direction
    exact ⟨⟨framer.direction, bytes⟩, rfl, next_of_waiting hbytes, hlength⟩

end Framer
end SensorLink
