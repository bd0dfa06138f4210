import SensorLink.Proofs.Dialogue.Quiet

/-!
# A wait takes the first packet that it is for

A dialogue keeps one position, and a wait moves it forward. So whatever a wait has gone past, it has
looked at, and since it goes on it has passed all of that over. `Attends` is what a dialogue can
have done (`Dialogue.Does`) with this added: each reply is found at its place in what the link has
delivered, and everything between it and the place at which the dialogue began to listen, or took
its reply before, is no answer to the wait.

> **Every course attends** (`attends_follow`), under every schedule and in every world.

That rules out a lag too: a wait that was overtaken by its channel ends, and what it has not looked
at is never taken for something that it has passed over. Conversely, a wait that was not overtaken
finds the first packet that it is for (`ReplyStream.poll_first`).
-/

namespace SensorLink

/-! ## What lies behind a wait -/

/-- Every packet from one position on and before another is passed over. -/
def Awaited.PassesOver (awaited : Awaited) (packets : Broadcast Packet) (start stop : Nat) : Prop :=
  ∀ i p, start ≤ i → i < stop → packets.sent[i]? = some p → awaited.judge p = none

/-- The first packet from a position on that is wanted. -/
structure Broadcast.First (packets : Broadcast Packet) (wanted : Packet → Prop)
    (start position : Nat) (packet : Packet) : Prop where
  start_le : start ≤ position
  found : packets.sent[position]? = some packet
  isWanted : wanted packet
  earlier : ∀ i p, start ≤ i → i < position → packets.sent[i]? = some p → ¬ wanted p

namespace Broadcast

variable {packets packets' : Broadcast Packet}

theorem lt_tail_of_getElem? {i : Nat} {p : Packet} (h : packets.sent[i]? = some p) :
    i < packets.tail := (Array.getElem?_eq_some_iff.mp h).1

theorem Extends.getElem?_eq (h : packets.Extends packets') {i : Nat} (hi : i < packets.tail) :
    packets'.sent[i]? = packets.sent[i]? := by
  have hget : packets.sent[i]? = some packets.sent[i] := Array.getElem?_eq_getElem hi
  rw [hget]
  exact h.getElem? hget

end Broadcast

namespace Awaited

variable {awaited : Awaited} {packets packets' : Broadcast Packet} {start stop : Nat}

theorem passesOver_self (awaited : Awaited) (packets : Broadcast Packet) (start : Nat) :
    awaited.PassesOver packets start start := fun _ _ hstart hlt =>
  absurd hstart (Nat.not_le.mpr hlt)

/-- A packet that was passed over stays passed over when more is sent. -/
theorem PassesOver.mono (hextends : packets.Extends packets') (hstop : stop ≤ packets.tail)
    (h : awaited.PassesOver packets start stop) : awaited.PassesOver packets' start stop := by
  intro i p hstart hlt hget
  rw [hextends.getElem?_eq (Nat.lt_of_lt_of_le hlt hstop)] at hget
  exact h i p hstart hlt hget

/-- What was passed over in two stretches was passed over in one. -/
theorem PassesOver.trans {middle : Nat} (h : awaited.PassesOver packets start middle)
    (h' : awaited.PassesOver packets middle stop) : awaited.PassesOver packets start stop := by
  intro i p hstart hlt hget
  rcases Nat.lt_or_ge i middle with hi | hi
  · exact h i p hstart hi hget
  · exact h' i p hi hlt hget

/-- The packets that a look has passed over stand right behind where it began. -/
theorem passesOver_of_unread {before after : List Packet}
    (hunread : packets.unread start = before ++ after)
    (hbefore : ∀ p ∈ before, awaited.judge p = none) :
    awaited.PassesOver packets start (start + before.length) := by
  intro i p hstart hlt hget
  have hi : i - start < before.length := by omega
  have hget' : (packets.unread start)[i - start]? = some p := by
    rw [Broadcast.unread_eq_drop, List.getElem?_drop, Array.getElem?_toList,
      Nat.add_sub_cancel' hstart]
    exact hget
  rw [hunread, List.getElem?_append_left hi] at hget'
  exact hbefore p (List.mem_of_getElem? hget')

theorem first_of_passesOver {wanted : Packet → Prop} {position : Nat} {packet : Packet}
    (hwanted : ∀ p, awaited.judge p = none ↔ ¬ wanted p) (hstart : start ≤ position)
    (hfound : packets.sent[position]? = some packet) (hjudge : awaited.judge packet ≠ none)
    (hpassed : awaited.PassesOver packets start position) :
    packets.First wanted start position packet where
  start_le := hstart
  found := hfound
  isWanted := Classical.not_not.mp fun hnot => hjudge ((hwanted packet).mpr hnot)
  earlier i p hi hlt hget := (hwanted p).mp (hpassed i p hi hlt hget)

end Awaited

namespace ReplyStream

variable {awaited : Awaited} {inbox : Inbox} {stream after : ReplyStream}

/-- A wait that ends with a reply has passed over everything in front of it. -/
theorem passesOver_of_poll_ok {reply : awaited.Reply}
    (h : poll awaited inbox stream = (some (.ok reply), after)) :
    awaited.PassesOver inbox.packets stream.next (after.next - 1) := by
  obtain ⟨before, rest, hunread, hbefore, -, hafter⟩ := reply_of_poll h
  rw [hafter]
  exact Awaited.passesOver_of_unread hunread hbefore

theorem passesOver_of_poll_none (h : poll awaited inbox stream = (none, after)) :
    awaited.PassesOver inbox.packets stream.next after.next := by
  have hlook := look awaited inbox stream
  rw [h] at hlook
  generalize hx : ((none : Option (Except Error awaited.Reply)), after) = x at hlook
  cases hlook with
  | lagged => cases hx
  | judged => cases hx
  | ended => cases hx
  | passed _ hnone _ =>
    have hnext := congrArg (fun y => y.2.next) hx
    simp only [pollState_next] at hnext
    rw [hnext]
    exact Awaited.passesOver_of_unread (List.append_nil _).symm hnone

/-- A look at a stream that was not overtaken finds the first packet that the wait is for. -/
theorem poll_first {start position : Nat} {packet : Packet} {outcome : Except Error awaited.Reply}
    (hreach : inbox.packets.oldest ≤ stream.next) (hstart : start ≤ stream.next)
    (hgone : awaited.PassesOver inbox.packets start stream.next) (hle : start ≤ position)
    (hfound : inbox.packets.sent[position]? = some packet)
    (hpassed : awaited.PassesOver inbox.packets start position)
    (hjudge : awaited.judge packet = some outcome) :
    poll awaited inbox stream = (some outcome, { stream with next := position + 1 }) := by
  -- The look cannot be past the packet: it would have been passed over, and it is not to be.
  have hnext : stream.next ≤ position := by
    refine Nat.le_of_not_lt fun hlt => ?_
    rw [hgone position packet hle hlt hfound] at hjudge
    cases hjudge
  obtain ⟨skipped, rfl⟩ := Nat.exists_eq_add_of_le hnext
  -- Seen from where the look begins, the packet stands behind those that it skips.
  have hget : (inbox.packets.unread stream.next)[skipped]? = some packet := by
    rw [Broadcast.unread_eq_drop, List.getElem?_drop, Array.getElem?_toList]
    exact hfound
  obtain ⟨hlt, -⟩ := List.getElem?_eq_some_iff.mp hget
  have hfirst : firstJudged awaited (inbox.packets.unread stream.next) =
      (some outcome, skipped + 1) := by
    refine firstJudged_of_getElem? hget hjudge fun i p hi hp => ?_
    rw [Broadcast.unread_eq_drop, List.getElem?_drop, Array.getElem?_toList] at hp
    exact hpassed _ p (Nat.le_trans hstart (Nat.le_add_right _ _)) (by omega) hp
  unfold poll
  simp only [if_neg (Nat.not_lt.mpr hreach), hfirst]
  rfl

end ReplyStream

/-! ## What a dialogue can have done -/

namespace Dialogue

variable {α : Type}

/-- What a dialogue can have done and what is left of it then, `start` being the position from which
on it listened at first and `stop` that from which on it listens now. -/
inductive Attends (packets : Broadcast Packet) :
    Nat → Dialogue α → List Act → Nat → Dialogue α → Prop where
  | rest (start : Nat) (d : Dialogue α) : Attends packets start d [] start d
  | fails {start : Nat} {d : Dialogue α} {e : Error} (h : Hazard d e) :
    Attends packets start d [] start (.done (.error e))
  | listens {start stop : Nat} {next left : Dialogue α} {acts : List Act} (position : Nat)
      (later : Attends packets position next acts stop left) :
    Attends packets start (.subscribe next) (.listened position :: acts) stop left
  | sends {start stop : Nat} {request : UInt32 → Packet} {next left : Dialogue α}
      {acts : List Act} {unixTime : UInt32} {bytes : Bytes}
      (h : (request unixTime).encode = .ok bytes)
      (later : Attends packets start next acts stop left) :
    Attends packets start (.send request next) (.wrote bytes :: acts) stop left
  | streams {start stop : Nat} {bytes : Bytes} {next left : Dialogue α} {acts : List Act}
      (later : Attends packets start next acts stop left) :
    Attends packets start (.stream bytes next) (.wrote bytes :: acts) stop left
  | takes {start stop : Nat} {awaited : Awaited} {timeout : Duration}
      {next : awaited.Reply → Dialogue α} {left : Dialogue α} {acts : List Act} {position : Nat}
      {reply : awaited.Reply} (hstart : start ≤ position)
      (hfound : packets.sent[position]? = some (awaited.packet reply))
      (hpassed : awaited.PassesOver packets start position)
      (hjudge : awaited.judge (awaited.packet reply) = some (.ok reply))
      (later : Attends packets (position + 1) (next reply) acts stop left) :
    Attends packets start (.await awaited timeout next)
      (.took position (awaited.packet reply) :: acts) stop left
  | pauses {start stop : Nat} {length : Duration} {next left : Dialogue α} {acts : List Act}
      (later : Attends packets start next acts stop left) :
    Attends packets start (.pause length next) acts stop left

namespace Attends

variable {packets packets' : Broadcast Packet} {start middle stop : Nat} {d d' left : Dialogue α}
  {acts more : List Act}

theorem does (h : Attends packets start d acts stop left) : Does d acts left := by
  induction h with
  | rest _ d => exact .rest d
  | fails h => exact .fails h
  | listens position _ ih => exact .listens position ih
  | sends h _ ih => exact .sends h ih
  | streams _ ih => exact .streams ih
  | takes _ _ _ hjudge _ ih => exact .takes _ hjudge ih
  | pauses _ ih => exact .pauses ih

theorem of_done {r : Except Error α} (h : Attends packets start (.done r) acts stop left) :
    acts = [] ∧ stop = start ∧ left = .done r := by
  cases h with
  | rest => exact ⟨rfl, rfl, rfl⟩
  | fails h => cases h

/-- Attention is paid from one position to the next, and no packet between them is skipped. -/
theorem trans (h : Attends packets start d acts middle d')
    (h' : Attends packets middle d' more stop left) :
    Attends packets start d (acts ++ more) stop left := by
  induction h with
  | rest => exact h'
  | fails hazard =>
    obtain ⟨rfl, rfl, rfl⟩ := h'.of_done
    exact .fails hazard
  | listens position _ ih => exact .listens position (ih h')
  | sends hencode _ ih => exact .sends hencode (ih h')
  | streams _ ih => exact .streams (ih h')
  | takes hstart hfound hpassed hjudge _ ih => exact .takes hstart hfound hpassed hjudge (ih h')
  | pauses _ ih => exact .pauses (ih h')

theorem mono (hextends : packets.Extends packets') (h : Attends packets start d acts stop left) :
    Attends packets' start d acts stop left := by
  induction h with
  | rest start d => exact .rest start d
  | fails h => exact .fails h
  | listens position _ ih => exact .listens position ih
  | sends h _ ih => exact .sends h ih
  | streams _ ih => exact .streams ih
  | takes hstart hfound hpassed hjudge _ ih =>
    have hstop := Nat.le_of_lt (Broadcast.lt_tail_of_getElem? hfound)
    exact .takes hstart (hextends.getElem? hfound) (hpassed.mono hextends hstop) hjudge ih
  | pauses _ ih => exact .pauses ih

end Attends
end Dialogue

/-! ## Every course attends -/

/-- What a position says of a dialogue that began to listen at `start`: a wait has passed over
whatever it has gone past, and before a wait nothing has been gone past. -/
def Dialogue.HasPassed {α : Type} (packets : Broadcast Packet) (start next : Nat) :
    Dialogue α → Prop
  | .await awaited _ _ => start ≤ next ∧ awaited.PassesOver packets start next
  | .done _ => True
  | _ => next = start

namespace Course

variable {α : Type} {course : Course α} {start : Nat}

open Dialogue (Attends)

structure Attentive (start : Nat) (course : Course α) : Prop where
  next_le : course.task.stream.next ≤ course.world.link.inbox.packets.tail
  passed : course.task.dialogue.HasPassed course.world.link.inbox.packets start
    course.task.stream.next

/-- A course that has not gone past anything, whatever it does next. -/
theorem attentive_of_eq (hle : course.task.stream.next ≤ course.world.link.inbox.packets.tail)
    (h : course.task.stream.next = start) : Attentive start course := by
  refine ⟨hle, ?_⟩
  cases course.task.dialogue with
  | await awaited timeout next =>
    rw [h]
    exact ⟨Nat.le_refl _, Awaited.passesOver_self _ _ _⟩
  | done result => trivial
  | _ => exact h

theorem attentive_start (dialogue : Dialogue α) (world : World) :
    Attentive 0 (Course.start dialogue world) := attentive_of_eq (Nat.zero_le _) rfl

/-- What is delivered meanwhile is behind everything that the course has gone past. -/
theorem Attentive.meanwhile (h : Attentive start course) (what : Happening) :
    Attentive start (course.move (.meanwhile what)) := by
  have hextends := course.world.extends_undergo what
  refine ⟨Nat.le_trans h.next_le hextends.tail_le, ?_⟩
  obtain ⟨⟨dialogue, stream, deadline⟩, world, done⟩ := course
  obtain ⟨hle, hpassed⟩ := h
  cases dialogue with
  | await awaited timeout next => exact ⟨hpassed.1, hpassed.2.mono hextends hle⟩
  | done result => trivial
  | _ => exact hpassed

theorem extends_step (course : Course α) : course.world.link.Extends course.step.world.link := by
  rcases course.world_step with heq | ⟨bytes, heq⟩
  · rw [heq]
    exact .refl _
  · rw [heq]
    exact course.world.extends_write bytes

theorem extends_follow (schedule : List Move) (course : Course α) :
    course.world.link.Extends (course.follow schedule).world.link := by
  induction schedule generalizing course with
  | nil => exact .refl _
  | cons move schedule ih =>
    have hmove : course.world.link.Extends (course.move move).world.link := by
      cases move with
      | step => exact course.extends_step
      | meanwhile what => exact course.world.extends_undergo what
    exact hmove.trans (ih _)

/-- A step of a course attends, and so does the course after it. -/
def StepAttends (start : Nat) (course : Course α) : Prop :=
  ∃ acts stop, course.step.acts = course.acts ++ acts ∧
    Attends course.step.world.link.inbox.packets start course.task.dialogue acts stop
      course.step.task.dialogue ∧ Attentive stop course.step

variable {stream : ReplyStream} {deadline : Option Nat} {world : World} {done : List Act}

theorem stepAttends_transmitted {d : Dialogue α} {bytes : Bytes} (next : Dialogue α)
    (hle : stream.next ≤ world.link.inbox.packets.tail) (hnext : stream.next = start)
    (hstep : step ⟨⟨d, stream, deadline⟩, world, done⟩ = transmitted stream world done bytes next)
    (hwrites : ∀ packets, Attends packets start d [.wrote bytes] start next)
    (hfails : Dialogue.Hazard d (.linkLost .sendFailed)) :
    StepAttends start ⟨⟨d, stream, deadline⟩, world, done⟩ := by
  unfold StepAttends
  rw [hstep]
  have hextends := world.extends_write bytes
  revert hextends
  unfold transmitted
  rcases world.write bytes with ⟨_ | _, after⟩
  · intro hextends
    exact ⟨[], start, (List.append_nil _).symm, .fails hfails,
      attentive_of_eq (Nat.le_trans hle hextends.tail_le) hnext⟩
  · intro hextends
    exact ⟨_, start, rfl, hwrites _, attentive_of_eq (Nat.le_trans hle hextends.tail_le) hnext⟩

/-- The one step that looks at packets. -/
theorem stepAttends_await {awaited : Awaited} {timeout : Duration}
    {next : awaited.Reply → Dialogue α}
    (h : Attentive start ⟨⟨.await awaited timeout next, stream, deadline⟩, world, done⟩) :
    StepAttends start ⟨⟨.await awaited timeout next, stream, deadline⟩, world, done⟩ := by
  obtain ⟨hle, hstart, hpassed⟩ := h
  have hnil : done = done ++ [] := (List.append_nil done).symm
  have hbounds := ReplyStream.next_poll awaited hle
  unfold StepAttends
  rw [step_await]
  split
  · -- The reply stands right in front of the new position.
    rename_i reply after hpoll
    rw [hpoll] at hbounds
    obtain ⟨hlt, hfound⟩ := ReplyStream.found_of_poll hpoll
    have hbehind := hpassed.trans (ReplyStream.passesOver_of_poll_ok hpoll)
    have hjudge := ReplyStream.judge_of_poll hpoll
    refine ⟨_, after.next - 1 + 1, rfl, ?_, attentive_of_eq hbounds.2 ?_⟩
    · exact .takes (Nat.le_trans hstart (Nat.le_sub_one_of_lt hlt)) hfound hbehind hjudge
        (.rest _ _)
    · simp only at hlt ⊢
      omega
  -- The wait has failed, so it does not matter any more what was passed over.
  · rename_i e after hpoll
    rw [hpoll] at hbounds
    exact ⟨[], start, hnil, .fails (ReplyStream.hazard_of_poll hpoll), hbounds.2, trivial⟩
  -- All there was has been passed over, and the wait goes on unless its time is up.
  · rename_i after hpoll
    rw [hpoll] at hbounds
    have hbehind := hpassed.trans (ReplyStream.passesOver_of_poll_none hpoll)
    have hafter : start ≤ after.next := Nat.le_trans hstart hbounds.1
    unfold waited
    split
    · exact ⟨[], start, hnil, .rest _ _, hbounds.2, hafter, hbehind⟩
    · split
      · exact ⟨[], start, hnil, .fails .late, hbounds.2, trivial⟩
      · exact ⟨[], start, hnil, .rest _ _, hbounds.2, hafter, hbehind⟩

/-- **A step attends to the packets as its dialogue does.** -/
theorem stepAttends (h : Attentive start course) : StepAttends start course := by
  obtain ⟨⟨dialogue, stream, deadline⟩, world, done⟩ := course
  have hnil : done = done ++ [] := (List.append_nil done).symm
  cases dialogue with
  | done result => exact ⟨[], start, hnil, .rest _ _, h⟩
  | subscribe next =>
    unfold StepAttends
    rw [step_subscribe]
    split
    · exact ⟨_, _, rfl, .listens _ (.rest _ _), attentive_of_eq (Nat.le_refl _) rfl⟩
    · exact ⟨[], start, hnil, .fails .down, h.next_le, trivial⟩
  | send request next =>
    cases hencode : (request world.unixTime).encode with
    | error cause =>
      unfold StepAttends
      rw [step_send, hencode]
      exact ⟨[], start, hnil, .fails (.unsendable hencode), h.next_le, trivial⟩
    | ok bytes =>
      refine stepAttends_transmitted next h.next_le h.passed ?_
        (fun _ => .sends hencode (.rest _ _)) .unsent
      rw [step_send, hencode]
  | stream bytes next =>
    exact stepAttends_transmitted next h.next_le h.passed (step_stream ..)
      (fun _ => .streams (.rest _ _)) .unstreamed
  | await awaited timeout next => exact stepAttends_await h
  | pause length next =>
    unfold StepAttends
    rw [step_pause]
    split
    · exact ⟨[], start, hnil, .rest _ _, attentive_of_eq h.next_le h.passed⟩
    · split
      · exact ⟨[], start, hnil, .pauses (.rest _ _), attentive_of_eq h.next_le h.passed⟩
      · exact ⟨[], start, hnil, .rest _ _, attentive_of_eq h.next_le h.passed⟩

/-- **Every course attends**, under every schedule. -/
theorem attends_follow (schedule : List Move) (h : Attentive start course) :
    ∃ acts stop, (course.follow schedule).acts = course.acts ++ acts ∧
      Attends (course.follow schedule).world.link.inbox.packets start course.task.dialogue acts stop
        (course.follow schedule).task.dialogue ∧ Attentive stop (course.follow schedule) := by
  induction schedule generalizing course start with
  | nil => exact ⟨[], start, (List.append_nil _).symm, .rest _ _, h⟩
  | cons move schedule ih =>
    cases move with
    | meanwhile what => exact ih (h.meanwhile what)
    | step =>
      -- What the step has attended to stays where it is, whatever the rest of the schedule brings.
      obtain ⟨now, middle, hnow, hstep, hmiddle⟩ := stepAttends h
      obtain ⟨later, stop, hlater, hattends, hstop⟩ := ih hmiddle
      have hextends := course.step.extends_follow schedule
      refine ⟨now ++ later, stop, ?_, (hstep.mono hextends).trans hattends, hstop⟩
      rw [follow_cons, Course.move, hlater, hnow, List.append_assoc]

theorem attends_start (schedule : List Move) (dialogue : Dialogue α) (world : World) :
    let course := (Course.start dialogue world).follow schedule
    ∃ stop, Attends course.world.link.inbox.packets 0 dialogue course.acts stop
      course.task.dialogue ∧ Attentive stop course := by
  intro course
  obtain ⟨acts, stop, hacts, hattends, hattentive⟩ := attends_follow schedule
    (attentive_start dialogue world)
  obtain rfl : course.acts = acts := hacts
  exact ⟨stop, hattends, hattentive⟩

end Course
end SensorLink
