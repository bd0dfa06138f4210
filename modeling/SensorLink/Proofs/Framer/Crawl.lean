import SensorLink.Proofs.Framer.Conservation

/-!
# Skipping is only faster

A framer that meets noise looks ahead for the next byte that could start a frame and gives up
everything before it at once. What it looks for (`plausibleStart`) is not what it recognises a frame
by (`frameLength`): an announced payload that is too large is plausible and no frame, a version byte
at the very end is plausible until the byte behind it arrives. So it has to be said that the look
ahead never passes over a frame. The measure is the framer that never looks ahead. `crawl` gives up
the front byte and nothing else, and tries again:

> **the two find the same packets in the same frames, lose the same bytes in the same places and
> keep the same rest** (`drain_eq_crawl`).

They are not compared step by step, because they do not take the same steps. Both are readings of
the same bytes, and bytes have only one reading.
-/

namespace SensorLink
namespace Framer

/-- What some bytes say and what is left of them, taken without looking ahead: where no frame can
start, the front byte is given up and the byte behind it is the next front. -/
def crawl (d : Direction) : Bytes → List FramerEvent × Bytes
  | [] => ([], [])
  | first :: rest =>
    match _h : frameLength d (first :: rest) with
    | .error cause =>
      let (events, left) := crawl d rest
      (.discarded cause [first] :: events, left)
    | .ok none => ([], first :: rest)
    | .ok (some n) =>
      if (first :: rest).length < n then ([], first :: rest)
      else
        let (events, left) := crawl d ((first :: rest).drop n)
        (.ofFrame d ((first :: rest).take n) :: events, left)
termination_by bytes => bytes.length
decreasing_by
  · exact Nat.lt_succ_self rest.length
  · have h7 := seven_le_frameLength _h
    rw [List.length_drop, List.length_cons]
    omega

/-- Crawling takes a reading's decisions one by one, so its cases are those of a reading. -/
theorem reads_crawl (d : Direction) (bytes : Bytes) :
    Reads d bytes (pieces (crawl d bytes).1) (crawl d bytes).2 := by
  fun_induction crawl d bytes with
  | case1 => exact .wait (waiting_nil d)
  | case2 first rest cause herr events left hcrawl ih =>
    rw [hcrawl] at ih
    exact .noise herr ih
  | case3 first rest hunknown => exact .wait (.inl hunknown)
  | case4 first rest n hlen hshort => exact .wait (.inr ⟨n, hlen, hshort⟩)
  | case5 first rest n hlen hlong events left hcrawl ih =>
    have htake : ((first :: rest).take n).length = n :=
      List.length_take_of_le (Nat.le_of_not_lt hlong)
    rw [hcrawl] at ih
    exact .frame (List.take_append_drop n _).symm (by rw [htake, hlen]) ih

/-! ## What a search passes over -/

theorem not_plausible_of_skipped {d : Direction} {bytes : Bytes} {i : Nat}
    (h : i < (splitAtStart d bytes).1.length) : plausibleStart d (bytes.drop i) = false := by
  induction bytes generalizing i with
  | nil => cases h
  | cons b rest ih =>
    unfold splitAtStart at h
    split at h
    · cases h
    · rename_i hb
      cases i with
      | zero => exact Bool.eq_false_iff.mpr hb
      | succ i => exact ih (Nat.lt_of_succ_lt_succ h)

/-- No frame starts at a byte that is passed over, whatever arrives behind it. -/
theorem error_of_skipped {d : Direction} {bytes : Bytes} {i : Nat}
    (h : i < (splitAtStart d bytes).1.length) (more : Bytes) :
    ∃ cause, frameLength d (bytes.drop i ++ more) = .error cause := by
  have hplausible := not_plausible_of_skipped h
  have hi : i < bytes.length := by
    have hsplit := congrArg List.length (splitAtStart_append d bytes)
    rw [List.length_append] at hsplit
    omega
  rw [List.drop_eq_getElem_cons hi] at hplausible ⊢
  obtain ⟨cause, herr⟩ := frameLength_of_not_plausible hplausible
  exact ⟨cause, frameLength_append_error more herr⟩

/-- No frame starts at a byte that is given up, be it the front byte of a search or one that the
search passed over. -/
theorem error_of_dropped {framer after : Framer} {cause : Malformed} {dropped : Bytes}
    (h : framer.next = some (.discarded cause dropped, after)) {i : Nat} (hi : i < dropped.length)
    (more : Bytes) :
    ∃ other, frameLength framer.direction (framer.buffer.drop i ++ more) = .error other := by
  obtain ⟨d, bytes⟩ := framer
  have hstep : Step d bytes (.discarded cause dropped) after.buffer := step_of_next h
  generalize after.buffer = kept at hstep
  cases hstep with
  | search refused found =>
    cases found
    cases i with
    | zero => exact ⟨cause, frameLength_append_error more refused⟩
    | succ i => exact error_of_skipped (Nat.lt_of_succ_lt_succ hi) more

/-! ## The comparison -/

/-- **Skipping ahead finds what crawling finds**, and every byte that is given up on the way is one
at which no frame starts. -/
theorem drain_eq_crawl (framer : Framer) :
    let crawled := crawl framer.direction framer.buffer
    packets framer.drain.1 = packets crawled.1 ∧
    framer.drain.2.buffer = crawled.2 ∧
    gaps framer.drain.1 = gaps crawled.1 ∧
    ∀ cause dropped after, framer.next = some (.discarded cause dropped, after) →
      ∀ i < dropped.length, ∀ more, ∃ other,
        frameLength framer.direction (framer.buffer.drop i ++ more) = .error other := by
  intro crawled
  obtain ⟨hpieces, hleft⟩ := (reads_drain framer).unique (reads_crawl _ _)
  refine ⟨?_, hleft, ?_, fun cause dropped after h i hi more => error_of_dropped h hi more⟩
  · rw [packets_eq, packets_eq, hpieces]
  · rw [gaps_eq, gaps_eq, hpieces]

end Framer
end SensorLink
