import Mathlib.Algebra.GroupWithZero.Nat
import SensorLink.Proofs.Dialogue.Subscription

/-!
# Worlds in which only the schedule speaks

The script of a rehearsal answers writes, so what arrives there depends on what was written before,
by whomever. In a quiet world the script is at its end: every packet that arrives is in the
schedule, and the schedule can be varied independently of what dialogues do.

Little of a world matters to a dialogue. Apart from the packets it is a `View`: the state of the
link, whether it can be written to, and the clock. In a quiet world

> **what a dialogue does changes neither the view nor the packets** (`quiet_step`),

so dialogues that share a link do not show each other anything, and what does change them can be
read off the schedule (`undergo_view`, `sent_follow`).
-/

namespace SensorLink

namespace World

/-- The script is at its end. -/
def Quiet (world : World) : Prop := world.replies = [] ∧ world.later = none

/-- What a dialogue can tell of a world, but for the packets. -/
structure View where
  state : LinkState
  hasWriter : Bool
  announced : Watch LinkState
  /-- Whether there will be no more packets. -/
  ended : Bool
  now : Nat
  epoch : UInt32
  deriving DecidableEq

def view (world : World) : View where
  state := world.link.state
  hasWriter := world.link.hasWriter
  announced := world.link.inbox.state
  ended := world.link.inbox.packets.closed
  now := world.now
  epoch := world.epoch

/-- Whether a write is taken. -/
def View.canWrite (view : View) : Bool := view.state = .connected && view.hasWriter

/-- A happening as it changes the view. -/
def View.undergo (view : View) : Happening → View
  | .arrives _ => view
  | .passes milliseconds => { view with now := view.now + milliseconds }
  | .enters state =>
    if view.state = state then { view with hasWriter := state = .connected }
    else
      { view with
        state, hasWriter := state = .connected, announced := view.announced.publish state }

theorem View.closed_undergo (view : View) (what : Happening) :
    (view.undergo what).announced.closed = view.announced.closed := by
  cases what with
  | arrives packet => rfl
  | passes milliseconds => rfl
  | enters state =>
    have hpublish : (view.announced.publish state).closed = view.announced.closed := by
      unfold Watch.publish
      split <;> rfl
    simp only [undergo]
    split
    · rfl
    · exact hpublish

theorem isConnected_eq (world : World) :
    world.link.isConnected = decide (world.view.state = .connected) := rfl

/-- What may happen to a quiet world beside the packets is seen in the view, and the view is enough
to tell what comes next. -/
theorem undergo_view (world : World) (what : Happening) :
    (world.undergo what).view = world.view.undergo what := by
  cases what with
  | arrives packet =>
    have hended := (Broadcast.extends_send world.link.inbox.packets packet).closed
    simp only [view, undergo, Link.dispatch, Link.count, Observers.nobody, View.undergo, hended]
  | passes milliseconds => rfl
  | enters state =>
    by_cases h : world.link.state = state
    · have hview : world.view.state = state := h
      simp only [View.undergo, if_pos hview]
      simp only [view, undergo, Link.enter, if_pos h]
    · have hview : ¬ world.view.state = state := h
      simp only [View.undergo, if_neg hview]
      simp only [view, undergo, Link.enter, if_neg h]
      rfl

/-- Only the arrival of a packet adds to the packets. -/
theorem undergo_packets (world : World) (what : Happening) :
    (world.undergo what).link.inbox.packets =
      match what with
      | .arrives packet => world.link.inbox.packets.send packet
      | _ => world.link.inbox.packets := by
  cases what with
  | arrives packet => rfl
  | passes milliseconds => rfl
  | enters state => exact Link.packets_enter state _

/-- A quiet world stays quiet, whatever happens to it. -/
theorem quiet_undergo {world : World} (h : world.Quiet) (what : Happening) :
    (world.undergo what).Quiet := by
  cases what <;> exact h

/-- A write that no failure stands behind changes nothing that a dialogue can tell. -/
theorem send_none (bytes : Bytes) (link : Link) :
    (link.send Observers.nobody bytes none).1 = (link.isConnected && link.hasWriter) ∧
      (link.send Observers.nobody bytes none).2.state = link.state ∧
      (link.send Observers.nobody bytes none).2.hasWriter = link.hasWriter ∧
      (link.send Observers.nobody bytes none).2.inbox = link.inbox := by
  unfold Link.send Link.isConnected
  by_cases hdown : link.state ≠ .connected ∨ ¬ link.hasWriter
  · rw [if_pos hdown]
    refine ⟨?_, rfl, rfl, rfl⟩
    rcases hdown with hstate | hwriter
    · simp [hstate]
    · simp [hwriter]
  · rw [if_neg hdown]
    obtain ⟨hstate, hwriter⟩ := not_or.mp hdown
    have htaken : true = (decide (link.state = .connected) && link.hasWriter) := by
      simp [Decidable.not_not.mp hstate, Decidable.not_not.mp hwriter]
    split
    · exact ⟨htaken, rfl, rfl, rfl⟩
    · exact ⟨htaken, rfl, rfl, rfl⟩

/-- In a quiet world a write is answered by nothing. -/
theorem write_quiet {world : World} (h : world.Quiet) (bytes : Bytes) :
    (world.write bytes).1 = world.view.canWrite ∧ (world.write bytes).2.Quiet ∧
      (world.write bytes).2.view = world.view ∧
      (world.write bytes).2.link.inbox = world.link.inbox := by
  obtain ⟨htaken, hstate, hwriter, hinbox⟩ := send_none bytes world.link
  have hreply : world.nextReply = (none, world) := by
    unfold nextReply
    rw [h.1, h.2]
  unfold write
  split
  · exact ⟨htaken, h, by simp only [view, hstate, hwriter, hinbox], hinbox⟩
  · rw [hreply]
    exact ⟨htaken, h, by simp only [view, Option.elim, hstate, hwriter, hinbox], hinbox⟩

end World

/-! ## What a schedule brings -/

namespace Move

def arrival? : Move → Option Packet
  | .meanwhile (.arrives packet) => some packet
  | _ => none

def length : Move → Nat
  | .meanwhile (.passes milliseconds) => milliseconds
  | _ => 0

/-- The move leaves the state of the link alone. -/
def isCalm : Move → Bool
  | .meanwhile (.enters _) => false
  | _ => true

end Move

/-- The packets that arrive in a schedule. -/
def arrivals (schedule : List Move) : List Packet := schedule.filterMap Move.arrival?

/-- How many milliseconds pass in a schedule. -/
def passed (schedule : List Move) : Nat := (schedule.map Move.length).sum

/-- The link stays in its state. -/
def Calm (schedule : List Move) : Prop := ∀ move ∈ schedule, move.isCalm

instance (schedule : List Move) : Decidable (Calm schedule) :=
  inferInstanceAs (Decidable (∀ move ∈ schedule, move.isCalm))

/-- What arrives during two schedules arrives during both in turn. -/
@[simp] theorem arrivals_append (schedule later : List Move) :
    arrivals (schedule ++ later) = arrivals schedule ++ arrivals later := List.filterMap_append

/-- Time adds up. -/
@[simp] theorem passed_append (schedule later : List Move) :
    passed (schedule ++ later) = passed schedule + passed later := by
  simp [passed]

@[simp] theorem arrivals_nil : arrivals [] = [] := rfl

@[simp] theorem arrivals_step (schedule : List Move) :
    arrivals (.step :: schedule) = arrivals schedule := rfl

@[simp] theorem arrivals_arrives (packet : Packet) (schedule : List Move) :
    arrivals (.meanwhile (.arrives packet) :: schedule) = packet :: arrivals schedule := rfl

@[simp] theorem arrivals_passes (milliseconds : Nat) (schedule : List Move) :
    arrivals (.meanwhile (.passes milliseconds) :: schedule) = arrivals schedule := rfl

@[simp] theorem arrivals_enters (state : LinkState) (schedule : List Move) :
    arrivals (.meanwhile (.enters state) :: schedule) = arrivals schedule := rfl

@[simp] theorem passed_nil : passed [] = 0 := rfl

@[simp] theorem passed_step (schedule : List Move) : passed (.step :: schedule) = passed schedule :=
  Nat.zero_add _

@[simp] theorem passed_arrives (packet : Packet) (schedule : List Move) :
    passed (.meanwhile (.arrives packet) :: schedule) = passed schedule := Nat.zero_add _

@[simp] theorem passed_passes (milliseconds : Nat) (schedule : List Move) :
    passed (.meanwhile (.passes milliseconds) :: schedule) = milliseconds + passed schedule := rfl

@[simp] theorem passed_enters (state : LinkState) (schedule : List Move) :
    passed (.meanwhile (.enters state) :: schedule) = passed schedule := Nat.zero_add _

namespace Course

variable {α : Type}

/-- A step leaves the world as it is, or it is a write. -/
theorem world_step (course : Course α) :
    course.step.world = course.world ∨
      ∃ bytes, course.step.world = (course.world.write bytes).2 := by
  obtain ⟨⟨dialogue, stream, deadline⟩, world, done⟩ := course
  -- A link may go down by a frame that it does not take, so both ways count as a write.
  have htransmitted (bytes : Bytes) (next : Dialogue α) :
      (transmitted stream world done bytes next).world = (world.write bytes).2 := by
    unfold transmitted
    rcases world.write bytes with ⟨_ | _, after⟩ <;> rfl
  cases dialogue with
  | done result => exact .inl rfl
  | subscribe next =>
    rw [step_subscribe]
    split
    · exact .inl rfl
    · exact .inl rfl
  | send request next =>
    rw [step_send]
    split
    · exact .inl rfl
    · exact .inr ⟨_, htransmitted _ next⟩
  | stream bytes next =>
    rw [step_stream]
    exact .inr ⟨bytes, htransmitted bytes next⟩
  | await awaited timeout next =>
    rw [step_await]
    split
    · exact .inl rfl
    · exact .inl rfl
    · unfold waited
      split
      · exact .inl rfl
      · split
        · exact .inl rfl
        · exact .inl rfl
  | pause length next =>
    rw [step_pause]
    split
    · exact .inl rfl
    · split
      · exact .inl rfl
      · exact .inl rfl

/-- In a quiet world a step shows nothing of itself. -/
theorem quiet_step (course : Course α) (h : course.world.Quiet) :
    course.step.world.Quiet ∧ course.step.world.view = course.world.view ∧
      course.step.world.link.inbox = course.world.link.inbox := by
  rcases course.world_step with heq | ⟨bytes, heq⟩
  · rw [heq]
    exact ⟨h, rfl, rfl⟩
  · rw [heq]
    exact (World.write_quiet h bytes).2

/-! ## Keeping up -/

/-- Nothing was overwritten before a wait could look at it. -/
def inReach (course : Course α) : Bool :=
  match course.task.dialogue with
  | .await _ _ _ => course.world.link.inbox.packets.oldest ≤ course.task.stream.next
  | _ => true

/-- Nothing is ever overwritten before a wait can look at it. -/
def keepsUp : List Move → Course α → Bool
  | [], course => course.inReach
  | move :: schedule, course => course.inReach && keepsUp schedule (course.move move)

/-- To keep up with a schedule is to keep up at its start and after each move of it. These are the
three ways to take that apart. -/
theorem inReach_of_keepsUp {schedule : List Move} {course : Course α}
    (h : course.keepsUp schedule = true) : course.inReach = true := by
  cases schedule with
  | nil => exact h
  | cons move schedule => exact (Bool.and_eq_true_iff.mp h).1

theorem keepsUp_of_cons {move : Move} {schedule : List Move} {course : Course α}
    (h : course.keepsUp (move :: schedule) = true) :
    (course.move move).keepsUp schedule = true := (Bool.and_eq_true_iff.mp h).2

theorem keepsUp_of_append {schedule later : List Move} {course : Course α}
    (h : course.keepsUp (schedule ++ later) = true) :
    (course.follow schedule).keepsUp later = true := by
  induction schedule generalizing course with
  | nil => exact h
  | cons move schedule ih => exact ih (keepsUp_of_cons h)

/-- And so nothing was overwritten when the schedule is through. -/
theorem inReach_follow {schedule : List Move} {course : Course α}
    (h : course.keepsUp schedule = true) : (course.follow schedule).inReach = true := by
  induction schedule generalizing course with
  | nil => exact h
  | cons move schedule ih => exact ih (keepsUp_of_cons h)

end Course
end SensorLink
