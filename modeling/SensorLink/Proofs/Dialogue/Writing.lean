import SensorLink.Proofs.Dialogue.Quiet

/-!
# What a course does to the link

A dialogue changes the world only by what it hands to the link. So what can be said about a step is
said about the bytes that it hands over, `Task.attempt?`: there are none and the world stays as it
is, or the link takes them and they are a frame, or it does not and that is the end of the dialogue
(`follow_of_refused`).

> **A course that has written nothing, and to which no write was refused, leaves no mark on the
> world** (`world_follow`): it is as if only the schedule had been there.
-/

namespace SensorLink

variable {α : Type}

/-! ## Bytes that are handed over -/

/-- The bytes that a task hands to the link in its next step. -/
def Task.attempt? (task : Task α) (world : World) : Option Bytes :=
  match task.dialogue with
  | .send request _ => (request world.unixTime).encode.toOption
  | .stream bytes _ => some bytes
  | _ => none

namespace Course

variable {course : Course α} {bytes : Bytes}

theorem transmitted_of_taken {stream : ReplyStream} {world : World} {done : List Act}
    {next : Dialogue α} (h : (world.write bytes).1 = true) :
    transmitted stream world done bytes next =
      ⟨⟨next, stream, none⟩, (world.write bytes).2, done ++ [.wrote bytes]⟩ := by
  unfold transmitted
  revert h
  rcases world.write bytes with ⟨_ | _, after⟩
  · exact nofun
  · exact fun _ => rfl

theorem transmitted_of_refused {stream : ReplyStream} {world : World} {done : List Act}
    {next : Dialogue α} (h : (world.write bytes).1 = false) :
    transmitted stream world done bytes next =
      ⟨⟨.done (.error (.linkLost .sendFailed)), stream, none⟩, (world.write bytes).2, done⟩ := by
  unfold transmitted
  revert h
  rcases world.write bytes with ⟨_ | _, after⟩
  · exact fun _ => rfl
  · exact nofun

/-- A step that hands bytes over is a transmission of them. -/
theorem step_of_attempt (h : course.task.attempt? course.world = some bytes) :
    ∃ next, course.step = transmitted course.task.stream course.world course.acts bytes next := by
  obtain ⟨⟨dialogue, stream, deadline⟩, world, done⟩ := course
  cases dialogue with
  | send request next =>
    refine ⟨next, ?_⟩
    rw [step_send]
    have h : (request world.unixTime).encode.toOption = some bytes := h
    cases hencode : (request world.unixTime).encode with
    | error cause =>
      rw [hencode] at h
      cases h
    | ok frame =>
      rw [hencode] at h
      cases h
      rfl
  | stream written next =>
    refine ⟨next, ?_⟩
    cases h
    exact step_stream ..
  | _ => cases h

theorem step_of_no_attempt (h : course.task.attempt? course.world = none) :
    course.step.world = course.world := by
  obtain ⟨⟨dialogue, stream, deadline⟩, world, done⟩ := course
  cases dialogue with
  | done result => rfl
  | subscribe next =>
    rw [step_subscribe]
    split <;> rfl
  | send request next =>
    rw [step_send]
    have h : (request world.unixTime).encode.toOption = none := h
    cases hencode : (request world.unixTime).encode with
    | error cause => rfl
    | ok frame =>
      rw [hencode] at h
      cases h
  | stream written next => cases h
  | await awaited timeout next =>
    rw [step_await]
    split
    · rfl
    · rfl
    · unfold waited
      split
      · rfl
      · split <;> rfl
  | pause length next =>
    rw [step_pause]
    split
    · rfl
    · split <;> rfl

/-- **A write that is not taken is the last thing that a dialogue does.** -/
theorem follow_of_refused (h : course.task.attempt? course.world = some bytes)
    (hrefused : (course.world.write bytes).1 = false) (later : List Move) :
    (course.follow (.step :: later)).acts = course.acts ∧
      (course.follow (.step :: later)).result? = some (.error (.linkLost .sendFailed)) := by
  obtain ⟨next, hstep⟩ := step_of_attempt h
  rw [transmitted_of_refused hrefused] at hstep
  have hresult : course.step.result? = some (.error (.linkLost .sendFailed)) := by
    rw [hstep]
    rfl
  refine ⟨?_, result_follow hresult later⟩
  rw [follow_cons, Course.move, (follow_of_result hresult later).2, hstep]

end Course

/-! ## Leaving no mark -/

/-- What a schedule does to a world by itself. -/
def World.undergoAll (schedule : List Move) (world : World) : World :=
  schedule.foldl
    (fun world move =>
      match move with
      | .step => world
      | .meanwhile what => world.undergo what)
    world

theorem World.bytesSent_undergoAll (schedule : List Move) (world : World) :
    (world.undergoAll schedule).link.stats.bytesSent = world.link.stats.bytesSent := by
  induction schedule generalizing world with
  | nil => rfl
  | cons move schedule ih =>
    refine (ih _).trans ?_
    cases move with
    | step => rfl
    | meanwhile what =>
      cases what with
      | arrives packet => rfl
      | passes milliseconds => rfl
      | enters state =>
        simp only [World.undergo, Link.enter]
        split <;> rfl

namespace Course

/-- What is written stays written. -/
theorem frames_follow (schedule : List Move) (course : Course α) :
    course.frames <+: (course.follow schedule).frames := by
  obtain ⟨acts, hacts, -⟩ := course.does_follow schedule
  unfold frames
  rw [hacts, framesOf_append]
  exact List.prefix_append _ _

/-- **A course that has written nothing more leaves no mark on the world**, unless a write was
refused. -/
theorem world_follow (schedule : List Move) (course : Course α)
    (hframes : (course.follow schedule).frames = course.frames)
    (hresult : (course.follow schedule).result? ≠ some (.error (.linkLost .sendFailed))) :
    (course.follow schedule).world = course.world.undergoAll schedule := by
  induction schedule generalizing course with
  | nil => rfl
  | cons move schedule ih =>
    cases move with
    | meanwhile what => exact ih _ hframes hresult
    | step =>
      -- What the step may have written is still there at the end.
      have hlater := course.step.frames_follow schedule
      have hsame : course.step.frames = course.frames := by
        rw [follow_cons, Course.move] at hframes
        rw [hframes] at hlater
        exact hlater.eq_of_length_le (course.frames_follow [.step]).length_le
      have hworld : course.step.world = course.world := by
        cases hattempt : course.task.attempt? course.world with
        | none => exact step_of_no_attempt hattempt
        | some bytes =>
          obtain ⟨next, hstep⟩ := step_of_attempt hattempt
          cases htaken : (course.world.write bytes).1 with
          | true =>
            rw [transmitted_of_taken htaken] at hstep
            rw [hstep] at hsame
            simp [frames, framesOf, Act.written?] at hsame
          | false => exact absurd (follow_of_refused hattempt htaken schedule).2 hresult
      have hrest := ih course.step (hframes.trans hsame.symm) hresult
      rw [hworld] at hrest
      exact hrest

/-- The course has left the link as it would be without it. -/
structure Untouched (before : World) (schedule : List Move) (course : Course α) : Prop where
  frames : course.frames = []
  world : course.world = before.undergoAll schedule
  bytesSent : course.world.link.stats.bytesSent = before.link.stats.bytesSent

theorem untouched_of_frames {dialogue : Dialogue α} {world : World} {schedule : List Move}
    (hframes : ((start dialogue world).follow schedule).frames = [])
    (hresult : ((start dialogue world).follow schedule).result? ≠
      some (.error (.linkLost .sendFailed))) :
    Untouched world schedule ((start dialogue world).follow schedule) := by
  have hworld := world_follow schedule (start dialogue world) hframes hresult
  exact ⟨hframes, hworld, by rw [hworld, World.bytesSent_undergoAll]; rfl⟩

end Course
end SensorLink
