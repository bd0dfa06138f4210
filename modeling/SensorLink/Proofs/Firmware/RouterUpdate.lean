import SensorLink.Dialogue.Command
import SensorLink.Proofs.Dialogue.Question
import SensorLink.Proofs.Firmware.RouterChunks

/-!
# New firmware for the router, over a link that may fail

The router acknowledges no chunk of its new firmware. A chunk that is sent before the router is
ready, or twice, or after one that was lost, ruins the image and nobody is told. So what keeps an
update in order is its dialogue alone, whatever arrives and whatever the link does.

After the router's consent the dialogue only writes and pauses (`streamed_of_does`), so

> **every update streams its image whole or stops at a place that its result tells**
> (`streams_updateRouter`).
-/

namespace SensorLink

/-- The packet is the router's answer to the announcement of new firmware. -/
def Packet.IsUpdateAnswer : Packet → Prop
  | .dfuResponse _ => True
  | _ => False

namespace RouterImage

open Dialogue (Does Attends Hazard Unasked sendChunks updateRouter)

variable {image : RouterImage} {timeout : Duration} {outcome : Outcome}

/-! ## The parts of an update -/

/-- The frame announces an image of that length. -/
def Announces (image : RouterImage) (frame : Bytes) : Prop :=
  ∃ unixTime totalLength, totalLength.toNat = image.bytes.length ∧
    (Packet.dfuRequest { unixTime, totalLength }).encode = .ok frame

/-- The wait for the router's answer has an eye for one kind of packet, whatever it says. -/
theorem judge_updateAnswer_eq_none {p : Packet} :
    Awaited.judge .updateAnswer p = none ↔ ¬ p.IsUpdateAnswer := by
  cases p <;> simp [Awaited.judge, Packet.IsUpdateAnswer]

theorem sendChunks_cons_bind (chunk : Bytes) (chunks : List Bytes) (k : Unit → Dialogue Outcome) :
    (sendChunks (chunk :: chunks) >>= k) =
      .stream chunk (.pause chunkPause (sendChunks chunks >>= k)) := rfl

/-- What is left of an update that has these chunks to write. -/
abbrev streaming (outcome : Outcome) (chunks : List Bytes) : Dialogue Outcome :=
  sendChunks chunks >>= fun _ => pure outcome

/-- Where the writing of some chunks can stand. -/
inductive Streamed (outcome : Outcome) (chunks : List Bytes) :
    List Act → Dialogue Outcome → Prop where
  | ready {written rest : List Bytes} {chunk : Bytes}
      (hchunks : chunks = written ++ chunk :: rest) :
    Streamed outcome chunks (written.map .wrote)
      (.stream chunk (.pause chunkPause (streaming outcome rest)))
  | pausing {written rest : List Bytes} (hchunks : chunks = written ++ rest) :
    Streamed outcome chunks (written.map .wrote) (.pause chunkPause (streaming outcome rest))
  | broken {written rest : List Bytes} {chunk : Bytes}
      (hchunks : chunks = written ++ chunk :: rest) :
    Streamed outcome chunks (written.map .wrote) (.done (.error (.linkLost .sendFailed)))
  | whole : Streamed outcome chunks (chunks.map .wrote) (.done (.ok outcome))

/-- A chunk that was written may stand before whatever comes of the others. -/
theorem Streamed.cons {chunks : List Bytes} {acts : List Act} {left : Dialogue Outcome}
    (first : Bytes) (h : Streamed outcome chunks acts left) :
    Streamed outcome (first :: chunks) (.wrote first :: acts) left := by
  cases h with
  | @ready written rest chunk hchunks =>
    exact @ready _ _ (first :: written) rest chunk (congrArg (first :: ·) hchunks)
  | @pausing written rest hchunks =>
    exact @pausing _ _ (first :: written) rest (congrArg (first :: ·) hchunks)
  | @broken written rest chunk hchunks =>
    exact @broken _ _ (first :: written) rest chunk (congrArg (first :: ·) hchunks)
  | whole => exact @whole outcome (first :: chunks)

/-- **Once the router has agreed, there is nothing to wait for.** The chunks are written one after
the other, and all that can go wrong is that the link does not take one. -/
theorem streamed_of_does {chunks : List Bytes} {acts : List Act} {left : Dialogue Outcome}
    (h : Does (streaming outcome chunks) acts left) : Streamed outcome chunks acts left := by
  induction chunks generalizing acts with
  | nil =>
    obtain ⟨rfl, rfl⟩ := Does.of_done h
    exact .whole
  | cons chunk chunks ih =>
    rw [streaming, sendChunks_cons_bind] at h
    cases h with
    | rest => exact @Streamed.ready _ _ [] chunks chunk rfl
    | fails hazard =>
      cases hazard
      exact @Streamed.broken _ _ [] chunks chunk rfl
    | streams later =>
      -- Behind every chunk there is a pause, be it the last one or not.
      cases later with
      | rest => exact @Streamed.pausing _ _ [chunk] chunks rfl
      | fails hazard => cases hazard
      | pauses later => exact (ih later).cons chunk

/-! ## The grammar of an update -/

/-- Neither a success nor the refusal of the image. -/
def Undecided : Option (Except Error Outcome) → Prop
  | some (.ok _) => False
  | some (.error (.updateRefused _)) => False
  | _ => True

/-- What an update can have done, and what is left of it then. -/
inductive Updating (image : RouterImage) (packets : Broadcast Packet) :
    List Act → Dialogue Outcome → Prop where
  | silent {acts : List Act} {left : Dialogue Outcome}
      (hacts : acts = [] ∨ ∃ start, acts = [.listened start]) (h : Undecided left.result?) :
    Updating image packets acts left
  | announced {start : Nat} {announcement : Bytes} {left : Dialogue Outcome}
      (hannounces : image.Announces announcement) (h : Undecided left.result?) :
    Updating image packets [.listened start, .wrote announcement] left
  | refused {start position : Nat} {announcement : Bytes} {r : DfuResponse}
      (hannounces : image.Announces announcement)
      (hfirst : packets.First Packet.IsUpdateAnswer start position (.dfuResponse r))
      (hcode : r.result ≠ 0x01) :
    Updating image packets
      [.listened start, .wrote announcement, .took position (.dfuResponse r)]
      (.done (.error (.updateRefused r.result)))
  | accepted {start position : Nat} {announcement : Bytes} {r : DfuResponse} {acts : List Act}
      {left : Dialogue Outcome} (hannounces : image.Announces announcement)
      (hfirst : packets.First Packet.IsUpdateAnswer start position (.dfuResponse r))
      (hcode : r.result = 0x01)
      (hstreamed : Streamed (.updated image.chunkCount image.bytes.length) image.chunks acts
        left) :
    Updating image packets
      (.listened start :: .wrote announcement :: .took position (.dfuResponse r) :: acts) left

/-- What an update does with the router's answer. -/
abbrev answered (image : RouterImage) (answer : DfuResponse) : Dialogue Outcome :=
  if answer.isReady then
    streaming (.updated image.chunkCount image.totalLength.toNat) image.chunks
  else .done (.error (.updateRefused answer.result))

/-- The whole update as a dialogue: it listens before it asks, so that no answer can slip past. -/
theorem updateRouter_eq (image : RouterImage) (timeout : Duration) :
    updateRouter image timeout =
      .subscribe (.send (fun t => .dfuRequest (image.request t))
        (.await .updateAnswer timeout image.answered)) := rfl

/-- If the question was never sent, nothing was decided by the router. -/
theorem undecided_of_unasked {request : UInt32 → Packet} {e : Error} (h : Unasked request e) :
    Undecided (some (.error e)) := by
  cases h <;> trivial

theorem undecided_of_await {next : DfuResponse → Dialogue Outcome} {e : Error}
    (h : Hazard (.await .updateAnswer timeout next) e) : Undecided (some (.error e)) := by
  cases h with
  | late => trivial
  | missed count => trivial
  | lost cause => trivial
  | @refused _ _ _ packet _ h => cases packet <;> cases h

/-- **Where an update can stand.** All that is claimed of an update is read off these cases. -/
theorem updating_of_attends {packets : Broadcast Packet} {start stop : Nat} {acts : List Act}
    {left : Dialogue Outcome} (hlength : image.totalLength.toNat = image.bytes.length)
    (h : Attends packets start (updateRouter image timeout) acts stop left) :
    Updating image packets acts left := by
  rw [updateRouter_eq] at h
  cases Dialogue.asked_of_attends h with
  | silent hacts hleft =>
    rcases hleft with hgoing | ⟨e, rfl, hunasked⟩
    · exact .silent hacts (hgoing ▸ trivial)
    · exact .silent hacts (undecided_of_unasked hunasked)
  | waiting hframe => exact .announced ⟨_, _, hlength, hframe⟩ trivial
  | failed hframe hazard => exact .announced ⟨_, _, hlength, hframe⟩ (undecided_of_await hazard)
  | @answered _ position _ _ _ r acts _ hframe hstart hfound hpassed hjudge later =>
    have hannounces : image.Announces _ := ⟨_, _, hlength, hframe⟩
    have hfirst := Awaited.first_of_passesOver (fun _ => judge_updateAnswer_eq_none) hstart
      hfound (by rw [hjudge]; exact nofun) hpassed
    by_cases hready : r.isReady = true
    · rw [answered, if_pos hready, hlength] at later
      exact .accepted hannounces hfirst (of_decide_eq_true hready) (streamed_of_does later.does)
    · rw [answered, if_neg hready] at later
      obtain ⟨rfl, -, rfl⟩ := later.of_done
      exact .refused hannounces hfirst fun hcode => hready (decide_eq_true hcode)

/-! ## Reading an update -/

@[simp] theorem framesOf_map_wrote (chunks : List Bytes) :
    framesOf (chunks.map .wrote) = chunks := by
  simp [framesOf, List.filterMap_map, Function.comp_def, Act.written?]

namespace Streamed

variable {chunks : List Bytes} {acts : List Act} {left : Dialogue Outcome}

theorem frames (h : Streamed outcome chunks acts left) : framesOf acts <+: chunks := by
  cases h with
  | ready hchunks => exact ⟨_, by rw [framesOf_map_wrote, hchunks]⟩
  | pausing hchunks => exact ⟨_, by rw [framesOf_map_wrote, hchunks]⟩
  | broken hchunks => exact ⟨_, by rw [framesOf_map_wrote, hchunks]⟩
  | whole => exact ⟨[], by rw [framesOf_map_wrote, List.append_nil]⟩

/-- No packet is looked at while the chunks go out. -/
theorem not_took (h : Streamed outcome chunks acts left) (position : Nat) (packet : Packet) :
    .took position packet ∉ acts := by
  cases h <;> simp

theorem ends {found : Except Error Outcome} (h : Streamed outcome chunks acts left)
    (hresult : left.result? = some found) :
    found = .ok outcome ∨ found = .error (.linkLost .sendFailed) := by
  cases h with
  | ready => cases hresult
  | pausing => cases hresult
  | broken => exact .inr (Option.some.inj hresult).symm
  | whole => exact .inl (Option.some.inj hresult).symm

theorem success {found : Outcome} (h : Streamed outcome chunks acts left)
    (hresult : left.result? = some (.ok found)) : found = outcome ∧ framesOf acts = chunks := by
  cases h with
  | ready => cases hresult
  | pausing => cases hresult
  | broken => cases hresult
  | whole =>
    cases hresult
    exact ⟨rfl, framesOf_map_wrote chunks⟩

theorem eq_ok_of_whole {found : Except Error Outcome} (h : Streamed outcome chunks acts left)
    (hframes : framesOf acts = chunks) (hresult : left.result? = some found) :
    found = .ok outcome := by
  cases h with
  | ready => cases hresult
  | pausing => cases hresult
  | broken hchunks =>
    rw [framesOf_map_wrote, hchunks] at hframes
    exact absurd hframes.symm (by simp)
  | whole => exact (Option.some.inj hresult).symm

/-- While the update goes on, it pauses or it has a chunk in hand that is the next one. -/
theorem proceeds (h : Streamed outcome chunks acts left) (hgoing : left.result? = none) :
    (∃ next, left = .pause chunkPause next) ∨
      ∃ chunk next rest, left = .stream chunk next ∧ chunks = framesOf acts ++ chunk :: rest := by
  cases h with
  | ready hchunks => exact .inr ⟨_, _, _, rfl, by rw [framesOf_map_wrote]; exact hchunks⟩
  | pausing => exact .inl ⟨_, rfl⟩
  | broken => cases hgoing
  | whole => cases hgoing

/-- A pause is not the end, and neither is a chunk that is taken. -/
theorem breaks {course : Course Outcome} {e : Error}
    (h : Streamed outcome chunks acts course.task.dialogue) (hgoing : course.result? = none)
    (hresult : course.step.result? = some (.error e)) :
    ∃ chunk, course.task.attempt? course.world = some chunk ∧
      (course.world.write chunk).1 = false := by
  obtain ⟨⟨dialogue, stream, deadline⟩, world, done⟩ := course
  cases h with
  | @ready _ _ chunk =>
    refine ⟨chunk, rfl, Bool.eq_false_iff.mpr fun htaken => ?_⟩
    rw [Course.step_stream, Course.transmitted_of_taken htaken] at hresult
    cases hresult
  | @pausing _ rest =>
    rw [Course.step_pause] at hresult
    split at hresult
    · cases hresult
    · split at hresult
      · cases rest <;> cases hresult
      · cases hresult
  | broken => cases hgoing
  | whole => cases hgoing

end Streamed

namespace Updating

variable {packets : Broadcast Packet} {acts : List Act} {left : Dialogue Outcome}

/-- The announcement is the first frame of all, and behind it come chunks from the front of the
image. -/
theorem frames (h : Updating image packets acts left) :
    framesOf acts = [] ∨ ∃ announcement written, image.Announces announcement ∧
      written <+: image.chunks ∧ framesOf acts = announcement :: written := by
  cases h with
  | silent hacts => rcases hacts with rfl | ⟨_, rfl⟩ <;> exact .inl rfl
  | announced hannounces => exact .inr ⟨_, [], hannounces, List.nil_prefix, rfl⟩
  | refused hannounces => exact .inr ⟨_, [], hannounces, List.nil_prefix, rfl⟩
  | accepted hannounces _ _ hstreamed => exact .inr ⟨_, _, hannounces, hstreamed.frames, rfl⟩

/-- **A chunk that was written shows that the router has said yes**, and that this was the first
thing it has said. -/
theorem consent {announcement chunk : Bytes} {chunks : List Bytes}
    (h : Updating image packets acts left)
    (hframes : framesOf acts = announcement :: chunk :: chunks) :
    ∃ start position r later,
      acts = .listened start :: .wrote announcement :: .took position (.dfuResponse r) :: later ∧
      packets.First Packet.IsUpdateAnswer start position (.dfuResponse r) ∧ r.result = 0x01 := by
  cases h with
  | silent hacts => rcases hacts with rfl | ⟨_, rfl⟩ <;> cases hframes
  | announced => cases hframes
  | refused => cases hframes
  | accepted _ hfirst hcode _ =>
    obtain ⟨rfl, -⟩ := List.cons.inj hframes
    exact ⟨_, _, _, _, rfl, hfirst, hcode⟩

/-- The answer that was taken decides what comes of the update: by any result but `0x01` it is over,
with nothing written but the announcement. -/
theorem answer {position : Nat} {packet : Packet} (h : Updating image packets acts left)
    (htook : .took position packet ∈ acts) :
    ∃ start announcement r later, packet = .dfuResponse r ∧
      acts = .listened start :: .wrote announcement :: .took position packet :: later ∧
      packets.First Packet.IsUpdateAnswer start position packet ∧
      (r.result ≠ 0x01 → framesOf acts = [announcement] ∧
        left.result? = some (.error (.updateRefused r.result))) ∧
      (r.result = 0x01 →
        Streamed (.updated image.chunkCount image.bytes.length) image.chunks later left) := by
  cases h with
  | silent hacts => rcases hacts with rfl | ⟨_, rfl⟩ <;> simp at htook
  | announced => simp at htook
  -- The answer is the one packet that was taken, so the packet in question is that one.
  | refused _ hfirst hcode =>
    simp only [List.mem_cons, reduceCtorEq, Act.took.injEq, List.not_mem_nil, or_false,
      false_or] at htook
    obtain ⟨rfl, rfl⟩ := htook
    exact ⟨_, _, _, _, rfl, rfl, hfirst, fun _ => ⟨rfl, rfl⟩, fun hnot => absurd hnot hcode⟩
  | accepted _ hfirst hcode hstreamed =>
    simp only [List.mem_cons, reduceCtorEq, Act.took.injEq, hstreamed.not_took, or_false,
      false_or] at htook
    obtain ⟨rfl, rfl⟩ := htook
    exact ⟨_, _, _, _, rfl, rfl, hfirst, fun hnot => absurd hcode hnot, fun _ => hstreamed⟩

/-- An update is refused only in the words of the router. -/
theorem refusal {code : UInt8} (h : Updating image packets acts left)
    (hresult : left.result? = some (.error (.updateRefused code))) :
    ∃ position r, .took position (.dfuResponse r) ∈ acts ∧ r.result = code ∧ code ≠ 0x01 := by
  cases h with
  | silent _ h =>
    rw [hresult] at h
    exact h.elim
  | announced _ h =>
    rw [hresult] at h
    exact h.elim
  | refused _ _ hcode =>
    cases hresult
    exact ⟨_, _, .tail _ (.tail _ (.head _)), rfl, hcode⟩
  | accepted _ _ _ hstreamed => rcases hstreamed.ends hresult with hend | hend <;> cases hend

theorem success {found : Outcome} (h : Updating image packets acts left)
    (hresult : left.result? = some (.ok found)) :
    found = .updated image.chunkCount image.bytes.length ∧
      ∃ announcement, framesOf acts = announcement :: image.chunks := by
  cases h with
  | silent _ h =>
    rw [hresult] at h
    exact h.elim
  | announced _ h =>
    rw [hresult] at h
    exact h.elim
  | refused => cases hresult
  | accepted _ _ _ hstreamed =>
    obtain ⟨hfound, hframes⟩ := hstreamed.success hresult
    exact ⟨hfound, _, congrArg (_ :: ·) hframes⟩

/-- Writing the last chunk is all there is to success, as there is no answer to it. -/
theorem whole {announcement : Bytes} {found : Except Error Outcome}
    (h : Updating image packets acts left) (hchunks : image.chunks ≠ [])
    (hframes : framesOf acts = announcement :: image.chunks) (hresult : left.result? = some found) :
    found = .ok (.updated image.chunkCount image.bytes.length) := by
  cases h with
  | silent hacts => rcases hacts with rfl | ⟨_, rfl⟩ <;> cases hframes
  | announced => exact absurd (List.cons.inj hframes).2.symm hchunks
  | refused => exact absurd (List.cons.inj hframes).2.symm hchunks
  | accepted _ _ _ hstreamed => exact hstreamed.eq_ok_of_whole (List.cons.inj hframes).2 hresult

theorem streamed {position : Nat} {r : DfuResponse} (h : Updating image packets acts left)
    (htook : .took position (.dfuResponse r) ∈ acts) (hcode : r.result = 0x01) :
    ∃ announcement later, framesOf acts = announcement :: framesOf later ∧
      Streamed (.updated image.chunkCount image.bytes.length) image.chunks later left := by
  obtain ⟨start, announcement, _, later, heq, rfl, -, -, hstreamed⟩ := h.answer htook
  cases heq
  exact ⟨announcement, later, rfl, hstreamed hcode⟩

end Updating

/-! ## The update as a whole -/

/-- What an update keeps to, wherever it stands. -/
structure StreamsWhole (image : RouterImage) (course : Course Outcome) : Prop where
  /-- First the announcement is written, and then chunks in their order, each by itself. -/
  frames : course.frames = [] ∨ ∃ announcement written, image.Announces announcement ∧
    written <+: image.chunks ∧ course.frames = announcement :: written
  /-- No chunk is written before the router's consent, which is the first answer in a subscription
  from before the announcement. -/
  accepted : ∀ announcement chunk chunks, course.frames = announcement :: chunk :: chunks →
    ∃ start position r acts,
      course.acts =
        .listened start :: .wrote announcement :: .took position (.dfuResponse r) :: acts ∧
      course.world.link.inbox.packets.First Packet.IsUpdateAnswer start position (.dfuResponse r) ∧
      r.result = 0x01
  /-- Any other first answer is a refusal, and no chunk is written. -/
  refused : ∀ position packet, .took position packet ∈ course.acts →
    ∃ start announcement r acts, packet = .dfuResponse r ∧
      course.acts = .listened start :: .wrote announcement :: .took position packet :: acts ∧
      course.world.link.inbox.packets.First Packet.IsUpdateAnswer start position packet ∧
      (r.result ≠ 0x01 → course.frames = [announcement] ∧
        course.result? = some (.error (.updateRefused r.result)))
  /-- There is no refusal without such an answer. -/
  refusal : ∀ code, course.result? = some (.error (.updateRefused code)) →
    ∃ position r, .took position (.dfuResponse r) ∈ course.acts ∧ r.result = code ∧ code ≠ 0x01
  /-- As long as there is no answer, nothing ends the wait for it but its time, the link, or packets
  that were missed. -/
  waits : ∀ start announcement, course.acts = [.listened start, .wrote announcement] →
    course.result? = none → course.Undisturbed →
    (∀ i p, start ≤ i → course.world.link.inbox.packets.sent[i]? = some p →
      ¬ p.IsUpdateAnswer) →
    course.step.acts = course.acts ∧ course.step.result? = none
  /-- As long as nothing was overtaken, the first answer is taken at the next look. -/
  decides : ∀ start announcement, course.acts = [.listened start, .wrote announcement] →
    course.result? = none → course.inReach = true → ∀ position r,
      course.world.link.inbox.packets.First Packet.IsUpdateAnswer start position (.dfuResponse r) →
      course.step.acts = course.acts ++ [.took position (.dfuResponse r)] ∧
      (r.result ≠ 0x01 → course.step.result? = some (.error (.updateRefused r.result)))
  /-- With the router's consent an update that is not over pauses or hands over the next chunk. -/
  proceeds : ∀ position r, .took position (.dfuResponse r) ∈ course.acts → r.result = 0x01 →
    course.result? = none → (∃ next, course.task.dialogue = .pause chunkPause next) ∨
      ∃ announcement written chunk rest, course.frames = announcement :: written ∧
        image.chunks = written ++ chunk :: rest ∧
        course.task.attempt? course.world = some chunk
  /-- It is broken off by nothing but a chunk that is not taken. -/
  breaks : ∀ position r e, .took position (.dfuResponse r) ∈ course.acts → r.result = 0x01 →
    course.result? = none → course.step.result? = some (.error e) →
    ∃ chunk, course.task.attempt? course.world = some chunk ∧
      (course.world.write chunk).1 = false
  /-- After a write that was not taken nothing more is written, and the link is reported lost. -/
  failed : ∀ bytes later, course.task.attempt? course.world = some bytes →
    (course.world.write bytes).1 = false →
    (course.follow (.step :: later)).frames = course.frames ∧
      (course.follow (.step :: later)).result? = some (.error (.linkLost .sendFailed))
  /-- A success means that the whole image was written. -/
  success : ∀ outcome, course.result? = some (.ok outcome) →
    outcome = .updated image.chunkCount image.bytes.length ∧
    ∃ announcement, course.frames = announcement :: image.chunks
  /-- Once the whole image was written there is no other result. -/
  whole : ∀ announcement result, course.frames = announcement :: image.chunks →
    course.result? = some result → result = .ok (.updated image.chunkCount image.bytes.length)
  /-- After the router's consent an update ends well or at a write that was not taken. -/
  ends : ∀ position r result, .took position (.dfuResponse r) ∈ course.acts → r.result = 0x01 →
    course.result? = some result →
    result = .ok (.updated image.chunkCount image.bytes.length) ∨
      result = .error (.linkLost .sendFailed)

theorem encode_request (image : RouterImage) (unixTime : UInt32) :
    ∃ frame, (Packet.dfuRequest (image.request unixTime)).encode = .ok frame := ⟨_, rfl⟩

/-- As long as nothing was overtaken, the first answer is taken at the next look. -/
theorem step_of_answer {course : Course Outcome} {start position : Nat} {r : DfuResponse}
    (hwaits : course.Waits .updateAnswer timeout image.answered start)
    (hreach : course.inReach = true)
    (hfirst : course.world.link.inbox.packets.First Packet.IsUpdateAnswer start position
      (.dfuResponse r)) :
    course.step.acts = course.acts ++ [.took position (.dfuResponse r)] ∧
      (r.result ≠ 0x01 → course.step.result? = some (.error (.updateRefused r.result))) := by
  rw [hwaits.step_reply (fun _ => judge_updateAnswer_eq_none) hreach hfirst rfl]
  refine ⟨rfl, fun hcode => ?_⟩
  have hready : ¬ r.isReady = true := fun hready => hcode (of_decide_eq_true hready)
  simp only [Course.result?, if_neg hready]
  rfl

/-- **Every update streams its image whole or stops at a place that its result tells**, at every
moment, under every schedule and in every world. On a link that is up it begins with the
announcement and waits for the answer. -/
theorem streams_updateRouter {bytes : Bytes} (himage : ofBytes bytes = .ok image)
    (timeout : Duration) (world : World) :
    let update := Course.start (updateRouter image timeout) world
    (world.link.isConnected = true → ∀ gap : List Happening,
      let asking := update.step.follow (gap.map Move.meanwhile)
      ∃ announcement, image.Announces announcement ∧
        asking.task.attempt? asking.world = some announcement ∧
        ((asking.world.write announcement).1 = true → asking.step.result? = none ∧
          asking.step.acts =
            [.listened world.link.inbox.packets.tail, .wrote announcement])) ∧
    ∀ schedule, image.StreamsWhole (update.follow schedule) := by
  have hlength := toNat_totalLength himage
  refine ⟨fun hup gap => ?_, fun schedule => ?_⟩
  · obtain ⟨announcement, hframe, hattempt, hasked⟩ := Course.asks_at_once
      (updateRouter_eq image timeout) (fun t => image.encode_request t) hup gap
    exact ⟨announcement, ⟨_, _, hlength, hframe⟩, hattempt, hasked⟩
  obtain ⟨stop, hattends, hattentive⟩ :=
    Course.attends_start schedule (updateRouter image timeout) world
  generalize (Course.start (updateRouter image timeout) world).follow schedule = course at *
  -- Where the course can stand is one thing, and that it attends is the other; the clauses need the
  -- one or the other.
  have hupdating := updating_of_attends hlength hattends
  rw [updateRouter_eq] at hattends
  have hasked := Dialogue.asked_of_attends hattends
  refine ⟨hupdating.frames, fun _ _ _ h => hupdating.consent h, fun position packet htook => ?_,
    fun _ h => hupdating.refusal h, fun start announcement hacts hgoing hundisturbed hnone => ?_,
    fun start announcement hacts hgoing hreach position r hfirst => ?_,
    fun position r htook hcode hgoing => ?_, fun position r e htook hcode hgoing hresult => ?_,
    fun bytes later hattempt hrefused => ?_, fun _ h => hupdating.success h,
    fun _ _ h h' => hupdating.whole (chunks_ne_nil himage) h h',
    fun position r result htook hcode hresult => ?_⟩
  · obtain ⟨start, announcement, r, later, hpacket, hacts, hfirst, hrefused, -⟩ :=
      hupdating.answer htook
    exact ⟨start, announcement, r, later, hpacket, hacts, hfirst, hrefused⟩
  · have hwaits := Course.waits_of_asked hasked hattentive hacts hgoing
    exact hwaits.step_unanswered (fun _ => judge_updateAnswer_eq_none) hundisturbed hnone
  · have hwaits := Course.waits_of_asked hasked hattentive hacts hgoing
    exact step_of_answer hwaits hreach hfirst
  · obtain ⟨announcement, later, hframes, hstreamed⟩ := hupdating.streamed htook hcode
    rcases hstreamed.proceeds hgoing with hpause | ⟨chunk, next, rest, hleft, hchunks⟩
    · exact .inl hpause
    · exact .inr ⟨announcement, _, chunk, rest, hframes, hchunks, by rw [Task.attempt?, hleft]⟩
  · obtain ⟨_, _, _, hstreamed⟩ := hupdating.streamed htook hcode
    exact hstreamed.breaks hgoing hresult
  · obtain ⟨hsame, hlost⟩ := Course.follow_of_refused hattempt hrefused later
    exact ⟨congrArg framesOf hsame, hlost⟩
  · obtain ⟨_, _, _, hstreamed⟩ := hupdating.streamed htook hcode
    exact hstreamed.ends hresult

/-- The router agrees, and then the link does not take the only chunk. -/
theorem streams_updateRouter_broken_off :
    let image : RouterImage := ⟨[0xAB]⟩
    let world : World :=
      { Exchange.upWorld with replies := [.send [] false, .refuse "broken pipe"] }
    let consent : DfuResponse := { unixTime := 0, result := 0x01 }
    let schedule : List Move := [.step, .step, .meanwhile (.arrives (.dfuResponse consent)), .step]
    let course := (Course.start (updateRouter image (.seconds 10)) world).follow schedule
    ofBytes [0xAB] = .ok image ∧
      .took 0 (.dfuResponse consent) ∈ course.acts ∧
      course.task.attempt? course.world = some [0x01, 0x00, 0xAB] ∧
      (course.follow [.step, .step]).frames = course.frames ∧
      (course.follow [.step, .step]).result? = some (.error (.linkLost .sendFailed)) := by
  intro image world consent schedule course
  have himage : ofBytes [0xAB] = .ok image := by simp [ofBytes, image]
  have hattempt : course.task.attempt? course.world = some [0x01, 0x00, 0xAB] := by decide
  have hrefused : (course.world.write [0x01, 0x00, 0xAB]).1 = false := by decide
  have hwhole := (streams_updateRouter himage (.seconds 10) world).2 schedule
  have hend := hwhole.failed _ [.step] hattempt hrefused
  exact ⟨himage, by decide, hattempt, hend⟩

end RouterImage
end SensorLink
