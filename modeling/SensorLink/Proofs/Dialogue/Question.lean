import SensorLink.Proofs.Dialogue.Attention
import SensorLink.Proofs.Dialogue.Exchange
import SensorLink.Proofs.Dialogue.Writing

/-!
# Questions

Whatever a dialogue wants to know it asks for: it listens, writes a request and waits. `Asked` says
where a dialogue can stand that begins so, whatever follows the answer (`asked_of_attends`). That
leaves it open whether the dialogue gets anywhere. It does: the request is the first thing that is
written (`asks_first`), and

> **a wait goes on as long as there is neither an answer nor anything else that ends it**
> (`Waits.step_unanswered`).
-/

namespace SensorLink

/-! ## How a wait goes -/

namespace Course

variable {α : Type} {course : Course α} {awaited : Awaited} {timeout : Duration}
  {next : awaited.Reply → Dialogue α} {start : Nat}

/-- The course waits, and it has passed over everything that it has looked at. -/
structure Waits (awaited : Awaited) (timeout : Duration) (next : awaited.Reply → Dialogue α)
    (start : Nat) (course : Course α) : Prop where
  dialogue : course.task.dialogue = .await awaited timeout next
  attentive : course.Attentive start

/-- Nothing but an answer can end a wait at its next look: the link is up, nothing was overtaken,
and there is time left. -/
structure Undisturbed (course : Course α) : Prop where
  inReach : course.inReach = true
  packetsOpen : course.world.link.inbox.packets.closed = false
  stateOpen : course.world.link.inbox.state.closed = false
  isUp : course.world.link.inbox.state.value ≠ .disconnected
  early : ∀ time ∈ course.task.deadline, course.world.now < time

namespace Waits

section

variable {wanted : Packet → Prop} {position : Nat} {packet : Packet}

theorem poll_eq (h : course.Waits awaited timeout next start)
    (hwanted : ∀ p, awaited.judge p = none ↔ ¬ wanted p) (hreach : course.inReach = true)
    (hfirst : course.world.link.inbox.packets.First wanted start position packet)
    {outcome : Except Error awaited.Reply} (hjudge : awaited.judge packet = some outcome) :
    course.task.stream.poll awaited course.world.link.inbox =
      (some outcome, { course.task.stream with next := position + 1 }) := by
  obtain ⟨⟨dialogue, stream, deadline⟩, world, done⟩ := course
  obtain ⟨rfl, hattentive⟩ := h
  exact ReplyStream.poll_first (of_decide_eq_true hreach) hattentive.passed.1 hattentive.passed.2
    hfirst.start_le hfirst.found
    (fun i p hi hlt hget => (hwanted p).mpr (hfirst.earlier i p hi hlt hget)) hjudge

theorem step_reply (h : course.Waits awaited timeout next start)
    (hwanted : ∀ p, awaited.judge p = none ↔ ¬ wanted p) (hreach : course.inReach = true)
    (hfirst : course.world.link.inbox.packets.First wanted start position packet)
    {reply : awaited.Reply} (hjudge : awaited.judge packet = some (.ok reply)) :
    course.step = ⟨⟨next reply, { course.task.stream with next := position + 1 }, none⟩,
      course.world, course.acts ++ [.took position packet]⟩ := by
  have hpoll := h.poll_eq hwanted hreach hfirst hjudge
  obtain ⟨⟨dialogue, stream, deadline⟩, world, done⟩ := course
  obtain ⟨rfl, -⟩ := h
  rw [step_await, hpoll, Awaited.eq_packet_of_judge hjudge]
  rfl

theorem step_refusal (h : course.Waits awaited timeout next start)
    (hwanted : ∀ p, awaited.judge p = none ↔ ¬ wanted p) (hreach : course.inReach = true)
    (hfirst : course.world.link.inbox.packets.First wanted start position packet)
    {e : Error} (hjudge : awaited.judge packet = some (.error e)) :
    course.step = ⟨⟨.done (.error e), { course.task.stream with next := position + 1 }, none⟩,
      course.world, course.acts⟩ := by
  have hpoll := h.poll_eq hwanted hreach hfirst hjudge
  obtain ⟨⟨dialogue, stream, deadline⟩, world, done⟩ := course
  obtain ⟨rfl, -⟩ := h
  rw [step_await, hpoll]

/-- **A wait goes on as long as there is neither an answer nor anything else that ends it.** -/
theorem step_unanswered (h : course.Waits awaited timeout next start)
    (hwanted : ∀ p, awaited.judge p = none ↔ ¬ wanted p) (hundisturbed : course.Undisturbed)
    (hnone : ∀ i p, start ≤ i → course.world.link.inbox.packets.sent[i]? = some p → ¬ wanted p) :
    course.step.acts = course.acts ∧ course.step.result? = none := by
  obtain ⟨⟨dialogue, stream, deadline⟩, world, done⟩ := course
  obtain ⟨rfl, hattentive⟩ := h
  have hlook := ReplyStream.look awaited world.link.inbox stream
  have hstep := step_await stream deadline world done awaited timeout next
  generalize stream.poll awaited world.link.inbox = x at hstep hlook
  cases hlook with
  | lagged hlag => exact absurd hlag (Nat.not_lt.mpr (of_decide_eq_true hundisturbed.inReach))
  | ended _ _ hclosed =>
    have hopen := hundisturbed.packetsOpen
    rw [hclosed] at hopen
    cases hopen
  | @judged before after packet outcome _ hunread _ hjudge =>
    -- Whatever the look has found was delivered after the wait began.
    have hget : world.link.inbox.packets.sent[stream.next + before.length]? = some packet := by
      have hget := congrArg (·[before.length]?) hunread
      simpa [Broadcast.unread_eq_drop] using hget
    have hstart := Nat.le_trans hattentive.passed.1 (Nat.le_add_right _ before.length)
    rw [(hwanted packet).mpr (hnone _ packet hstart hget)] at hjudge
    cases hjudge
  | passed =>
    have hopen : world.link.inbox.state.closed = false := hundisturbed.stateOpen
    simp only [ReplyStream.pollState_up hopen hundisturbed.isUp, Option.map_none] at hstep
    rw [hstep]
    unfold waited
    cases deadline with
    | none => exact ⟨rfl, rfl⟩
    | some time =>
      have hearly : ¬ time ≤ world.now := Nat.not_le.mpr (hundisturbed.early time rfl)
      simp only [if_neg hearly, true_and]
      rfl

end

/-- A wait that was overtaken ends, whatever else has arrived. -/
theorem step_missed (h : course.Waits awaited timeout next start)
    (hmissed : course.inReach = false) :
    ∃ count after, course.step =
      ⟨⟨.done (.error (.repliesMissed count)), after, none⟩, course.world, course.acts⟩ := by
  obtain ⟨⟨dialogue, stream, deadline⟩, world, done⟩ := course
  obtain ⟨rfl, -⟩ := h
  have hlag : stream.next < world.link.inbox.packets.oldest :=
    Nat.lt_of_not_le (of_decide_eq_false hmissed)
  refine ⟨world.link.inbox.packets.oldest - stream.next,
    { stream with next := world.link.inbox.packets.oldest }, ?_⟩
  rw [step_await]
  unfold ReplyStream.poll
  simp only [if_pos hlag]

end Waits
end Course

/-! ## Where a question can stand -/

/-- Something has become of a request that was under way. -/
def Error.IsOfTraffic : Error → Prop
  | .linkLost _ | .timedOut _ | .repliesMissed _ | .commandRejected .. | .blockRejected ..
  | .updateRefused _ => True
  | _ => False

/-- What a packet refuses is the request. -/
theorem Awaited.isOfTraffic_of_judge {awaited : Awaited} {packet : Packet} {e : Error}
    (h : awaited.judge packet = some (.error e)) : e.IsOfTraffic := by
  cases awaited with
  | response device command =>
    cases packet <;> simp only [judge, reduceCtorEq] at h
    rename_i r
    cases hsuccess : r.isSuccess <;> simp only [hsuccess] at h <;> split at h <;> cases h
    trivial
  | uplink device sensor command =>
    cases packet <;> simp only [judge, reduceCtorEq] at h <;> split at h <;> cases h
    trivial
  | _ => cases packet <;> simp [judge] at h

namespace Dialogue

variable {α : Type}

theorem Hazard.isOfTraffic {awaited : Awaited} {timeout : Duration}
    {next : awaited.Reply → Dialogue α} {e : Error} (h : Hazard (.await awaited timeout next) e) :
    e.IsOfTraffic := by
  cases h with
  | late => trivial
  | missed count => trivial
  | lost cause => trivial
  | refused h => exact Awaited.isOfTraffic_of_judge h

section

variable {packets : Broadcast Packet} {request : UInt32 → Packet} {awaited : Awaited}
  {timeout : Duration} {next : awaited.Reply → Dialogue α}

/-- What keeps a question from being asked. -/
inductive Unasked (request : UInt32 → Packet) : Error → Prop where
  | down : Unasked request .notConnected
  | unsendable {unixTime : UInt32} {cause : Malformed}
      (h : (request unixTime).encode = .error cause) : Unasked request (.malformed cause)
  | unsent : Unasked request (.linkLost .sendFailed)

/-- Where a dialogue can stand that asks something and goes on with the reply. -/
inductive Asked (packets : Broadcast Packet) (request : UInt32 → Packet) (awaited : Awaited)
    (timeout : Duration) (next : awaited.Reply → Dialogue α) :
    List Act → Nat → Dialogue α → Prop where
  | silent {acts : List Act} {stop : Nat} {left : Dialogue α}
      (hacts : acts = [] ∨ ∃ start, acts = [.listened start])
      (hleft : left.result? = none ∨ ∃ e, left = .done (.error e) ∧ Unasked request e) :
    Asked packets request awaited timeout next acts stop left
  | waiting {start : Nat} {unixTime : UInt32} {frame : Bytes}
      (hframe : (request unixTime).encode = .ok frame) :
    Asked packets request awaited timeout next [.listened start, .wrote frame] start
      (.await awaited timeout next)
  | failed {start : Nat} {unixTime : UInt32} {frame : Bytes} {e : Error}
      (hframe : (request unixTime).encode = .ok frame)
      (hazard : Hazard (.await awaited timeout next) e) :
    Asked packets request awaited timeout next [.listened start, .wrote frame] start
      (.done (.error e))
  | answered {start position stop : Nat} {unixTime : UInt32} {frame : Bytes}
      {reply : awaited.Reply} {acts : List Act} {left : Dialogue α}
      (hframe : (request unixTime).encode = .ok frame) (hstart : start ≤ position)
      (hfound : packets.sent[position]? = some (awaited.packet reply))
      (hpassed : awaited.PassesOver packets start position)
      (hjudge : awaited.judge (awaited.packet reply) = some (.ok reply))
      (later : Attends packets (position + 1) (next reply) acts stop left) :
    Asked packets request awaited timeout next
      (.listened start :: .wrote frame :: .took position (awaited.packet reply) :: acts) stop left

theorem asked_of_attends {start stop : Nat} {acts : List Act} {left : Dialogue α}
    (h : Attends packets start (.subscribe (.send request (.await awaited timeout next))) acts stop
      left) :
    Asked packets request awaited timeout next acts stop left := by
  cases h with
  | rest => exact .silent (.inl rfl) (.inl rfl)
  | fails hazard =>
    cases hazard
    exact .silent (.inl rfl) (.inr ⟨_, rfl, .down⟩)
  | listens position later =>
    cases later with
    | rest => exact .silent (.inr ⟨_, rfl⟩) (.inl rfl)
    | fails hazard =>
      cases hazard with
      | unsendable hencode => exact .silent (.inr ⟨_, rfl⟩) (.inr ⟨_, rfl, .unsendable hencode⟩)
      | unsent => exact .silent (.inr ⟨_, rfl⟩) (.inr ⟨_, rfl, .unsent⟩)
    | sends hframe later =>
      cases later with
      | rest => exact .waiting hframe
      | fails hazard => exact .failed hframe hazard
      | takes hstart hfound hpassed hjudge later =>
        exact .answered hframe hstart hfound hpassed hjudge later

end
end Dialogue

/-! ## How a question begins -/

namespace Course

variable {α : Type} {request : UInt32 → Packet} {next : Dialogue α}

/-- What has asked, and has neither taken anything nor ended, waits. -/
theorem waits_of_asked {course : Course α} {awaited : Awaited} {timeout : Duration}
    {reply : awaited.Reply → Dialogue α} {start stop : Nat} {frame : Bytes}
    (hasked : Dialogue.Asked course.world.link.inbox.packets request awaited timeout reply
      course.acts stop course.task.dialogue)
    (hattentive : course.Attentive stop) (hacts : course.acts = [.listened start, .wrote frame])
    (hgoing : course.result? = none) : course.Waits awaited timeout reply start := by
  rw [hacts] at hasked
  generalize hleft : course.task.dialogue = left at hasked
  cases hasked with
  | silent hacts => rcases hacts with hacts | ⟨_, hacts⟩ <;> cases hacts
  | waiting => exact ⟨hleft, hattentive⟩
  | failed =>
    rw [result?, hleft] at hgoing
    cases hgoing

theorem follow_subscribe {course : Course α} (hdialogue : course.task.dialogue = .subscribe next)
    (gap : List Happening) :
    course.step.follow (gap.map Move.meanwhile) =
      if course.world.link.isConnected then
        ⟨⟨next, .subscribe course.world.link.inbox, none⟩, gap.foldl World.undergo course.world,
          course.acts ++ [.listened course.world.link.inbox.packets.tail]⟩
      else ⟨⟨.done (.error .notConnected), course.task.stream, none⟩,
        gap.foldl World.undergo course.world, course.acts⟩ := by
  obtain ⟨⟨dialogue, stream, deadline⟩, world, done⟩ := course
  obtain rfl : dialogue = .subscribe next := hdialogue
  rw [step_subscribe]
  split
  · exact Exchange.follow_gap gap _
  · exact Exchange.follow_gap gap _

theorem attempt_send {stream : ReplyStream} {world : World} {frame : Bytes}
    (hframe : (request world.unixTime).encode = .ok frame) :
    Task.attempt? ⟨.send request next, stream, none⟩ world = some frame := by
  simp only [Task.attempt?, hframe]
  rfl

/-- The question is the first thing that is written. -/
theorem asks_first {course : Course α}
    (hdialogue : course.task.dialogue = .subscribe (.send request next))
    (hup : course.world.link.isConnected = true) (gap : List Happening) {frame : Bytes} :
    let asking := course.step.follow (gap.map Move.meanwhile)
    (request asking.world.unixTime).encode = .ok frame →
      asking.task.attempt? asking.world = some frame ∧
      ((asking.world.write frame).1 = true →
        asking.step.task.dialogue = next ∧ asking.step.acts =
          course.acts ++ [.listened course.world.link.inbox.packets.tail, .wrote frame]) := by
  rw [follow_subscribe hdialogue, if_pos hup]
  intro asking hframe
  have hstep := step_send asking.task.stream asking.task.deadline asking.world asking.acts request
    next
  rw [hframe] at hstep
  refine ⟨attempt_send hframe, fun htaken => ?_⟩
  have hasking : asking.step = _ := hstep.trans (transmitted_of_taken htaken)
  rw [hasking]
  exact ⟨rfl, List.append_assoc _ _ _⟩

theorem asks_at_once {awaited : Awaited} {timeout : Duration} {reply : awaited.Reply → Dialogue α}
    {dialogue : Dialogue α}
    (hdialogue : dialogue = .subscribe (.send request (.await awaited timeout reply)))
    (hencode : ∀ unixTime, ∃ frame, (request unixTime).encode = .ok frame) {world : World}
    (hup : world.link.isConnected = true) (gap : List Happening) :
    let asking := (Course.start dialogue world).step.follow (gap.map Move.meanwhile)
    ∃ frame, (request asking.world.unixTime).encode = .ok frame ∧
      asking.task.attempt? asking.world = some frame ∧
      ((asking.world.write frame).1 = true → asking.step.result? = none ∧
        asking.step.acts = [.listened world.link.inbox.packets.tail, .wrote frame]) := by
  intro asking
  obtain ⟨frame, hframe⟩ := hencode asking.world.unixTime
  have hstart : (Course.start dialogue world).task.dialogue = _ := hdialogue
  obtain ⟨hattempt, hasked⟩ := asks_first hstart hup gap hframe
  refine ⟨frame, hframe, hattempt, fun htaken => ?_⟩
  obtain ⟨hleft, hacts⟩ := hasked htaken
  refine ⟨?_, hacts⟩
  rw [result?, hleft]
  rfl

/-- Where nothing more is to be written behind it, a request is the last that is written. -/
theorem frames_request (hsilent : ∀ acts left, Dialogue.Does next acts left → framesOf acts = [])
    {stream : ReplyStream} {world : World} {done : List Act} {frame : Bytes}
    (hframe : (request world.unixTime).encode = .ok frame) (later : List Move) :
    (follow (.step :: later) ⟨⟨.send request next, stream, none⟩, world, done⟩).frames =
      framesOf done ++ if (world.write frame).1 = true then [frame] else [] := by
  have hattempt : Task.attempt? ⟨.send request next, stream, none⟩ world = some frame :=
    attempt_send hframe
  cases htaken : (world.write frame).1 with
  | false =>
    rw [frames, (follow_of_refused hattempt htaken later).1]
    simp
  | true =>
    have hstep : step ⟨⟨.send request next, stream, none⟩, world, done⟩ =
        ⟨⟨next, stream, none⟩, (world.write frame).2, done ++ [.wrote frame]⟩ := by
      rw [step_send, hframe]
      exact transmitted_of_taken htaken
    obtain ⟨more, hmore, hdoes⟩ := does_follow later
      ⟨⟨next, stream, none⟩, (world.write frame).2, done ++ [.wrote frame]⟩
    rw [follow_cons, move, hstep, frames, hmore, framesOf_append, hsilent more _ hdoes]
    simp [framesOf, Act.written?]

theorem frames_question (hsilent : ∀ acts left, Dialogue.Does next acts left → framesOf acts = [])
    {course : Course α} (hdialogue : course.task.dialogue = .subscribe (.send request next))
    (gap : List Happening) (later : List Move) {frame : Bytes} :
    let asking := course.step.follow (gap.map Move.meanwhile)
    (request asking.world.unixTime).encode = .ok frame →
      (asking.follow (.step :: later)).frames = course.frames ++
        if course.world.link.isConnected = true ∧ (asking.world.write frame).1 = true then [frame]
        else [] := by
  rw [follow_subscribe hdialogue]
  cases hup : course.world.link.isConnected with
  | false =>
    rw [if_neg Bool.false_ne_true]
    intro asking _
    rw [frames, (follow_of_result rfl _).2]
    simp [frames, asking]
  | true =>
    rw [if_pos rfl]
    intro asking hframe
    rw [frames_request hsilent hframe later]
    simp [frames, asking, framesOf, Act.written?]

end Course

end SensorLink
