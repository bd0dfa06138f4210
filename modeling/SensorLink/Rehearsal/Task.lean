import SensorLink.Dialogue.Basic
import SensorLink.Rehearsal.World

/-!
# Running dialogues

A `Task` is a dialogue on its way: what is left of it, the packets that it has yet to look at, and,
if it waits or pauses, until when. `step` does one thing; a task that has nothing to do until
something arrives or its time has come is `blocked`.

A wait looks at what has arrived before it looks at the clock. A timer goes off on the first whole
millisecond at which its span has passed.
-/

namespace SensorLink

/-- A dialogue on its way. -/
structure Task (α : Type) where
  dialogue : Dialogue α
  stream : ReplyStream := ⟨0, 0⟩
  /-- The time at which a wait or a pause ends, once it has begun. -/
  deadline : Option Nat := none

namespace Task

variable {α : Type}

/-- What came of a step. -/
inductive Progress (α : Type) where
  | finished (result : Except Error α)
  | moved (task : Task α) (world : World)
  /-- There is nothing to do before the given time. -/
  | blocked (task : Task α) (wake : Nat)

/-- The task with the rest of its dialogue. -/
def goOn (task : Task α) (dialogue : Dialogue α) : Task α :=
  { task with dialogue, deadline := none }

/-- The task with its dialogue ended. -/
def stop (task : Task α) (e : Error) : Task α := task.goOn (.done (.error e))

/-- Sends bytes and goes on with the rest of the dialogue. -/
def transmit (task : Task α) (bytes : Bytes) (next : Dialogue α) (world : World) : Progress α :=
  match world.write bytes with
  | (true, world) => .moved (task.goOn next) world
  | (false, world) => .moved (task.stop (.linkLost .sendFailed)) world

/-- Does one thing. -/
def step (task : Task α) (world : World) : Progress α :=
  match task.dialogue with
  | .done result => .finished result
  | .subscribe next =>
    if world.link.isConnected then
      .moved { task.goOn next with stream := .subscribe world.link.inbox } world
    else .moved (task.stop .notConnected) world
  | .send request next =>
    match (request world.unixTime).encode with
    | .error cause => .moved (task.stop (.malformed cause)) world
    | .ok bytes => task.transmit bytes next world
  | .stream bytes next => task.transmit bytes next world
  | .await awaited timeout next =>
    match task.stream.poll awaited world.link.inbox with
    | (some (.ok reply), stream) => .moved { task.goOn (next reply) with stream } world
    | (some (.error e), stream) => .moved { task.stop e with stream } world
    | (none, stream) =>
      let task := { task with stream }
      -- The clock starts at the first look, not when the wait was asked for.
      match task.deadline with
      | none => .moved { task with deadline := some (world.now + timeout.ticks) } world
      | some deadline =>
        if deadline ≤ world.now then .moved (task.stop (.timedOut timeout)) world
        else .blocked task deadline
  | .pause length next =>
    match task.deadline with
    | none => .moved { task with deadline := some (world.now + length.ticks) } world
    | some deadline =>
      if deadline ≤ world.now then .moved (task.goOn next) world else .blocked task deadline

/-! ## Every run ends -/

/-- What is left to do: the dialogue, and whether its first wait or pause has begun. -/
def left (task : Task α) : Dialogue α × Nat :=
  (task.dialogue, if task.deadline.isSome then 0 else 1)

/-- The order in which steps go down. -/
def Less : Task α → Task α → Prop :=
  InvImage (Prod.Lex Dialogue.After (· < ·)) left

theorem wellFounded_less : WellFounded (@Less α) :=
  InvImage.wf _ (Prod.lex ⟨_, Dialogue.wellFounded_after⟩ Nat.lt_wfRel).wf

instance : WellFoundedRelation (Task α) := ⟨Less, wellFounded_less⟩

theorem less_of_after {task t : Task α} (h : Dialogue.After t.dialogue task.dialogue) :
    Less t task :=
  Prod.Lex.left _ _ h

theorem less_of_begun {task t : Task α} (hd : t.dialogue = task.dialogue)
    (h : task.deadline = none) (h' : t.deadline.isSome) : Less t task := by
  unfold Less InvImage left
  rw [hd, h, if_pos h']
  exact Prod.Lex.right _ Nat.zero_lt_one

theorem less_transmit {task t : Task α} {bytes : Bytes} {next : Dialogue α} {world w : World}
    (hnext : Dialogue.After next task.dialogue) (h : task.transmit bytes next world = .moved t w) :
    Less t task := by
  unfold transmit at h
  split at h
  · cases h
    exact less_of_after hnext
  · cases h
    refine less_of_after (.failed fun r hr => ?_)
    rw [hr] at hnext
    cases hnext with
    | failed h => exact absurd rfl (h _)

/-- A step that moves leaves less to do. -/
theorem less_of_moved {task t : Task α} {world w : World} (h : task.step world = .moved t w) :
    Less t task := by
  obtain ⟨dialogue, stream, deadline⟩ := task
  cases dialogue with
  | done result => simp [step] at h
  | subscribe next =>
    simp only [step] at h
    split at h <;> cases h
    · exact less_of_after .subscribe
    · exact less_of_after (.failed (by simp))
  | send request next =>
    simp only [step] at h
    split at h
    · cases h
      exact less_of_after (.failed (by simp))
    · exact less_transmit .send h
  | stream bytes next => exact less_transmit .stream h
  | await awaited timeout next =>
    simp only [step] at h
    split at h
    · cases h
      exact less_of_after (.await _)
    · cases h
      exact less_of_after (.failed (by simp))
    · split at h
      · cases h
        exact less_of_begun rfl rfl rfl
      · split at h <;> cases h
        exact less_of_after (.failed (by simp))
  | pause length next =>
    simp only [step] at h
    split at h
    · cases h
      exact less_of_begun rfl rfl rfl
    · split at h <;> cases h
      exact less_of_after .pause

/-- A blocked task has as much left to do as before. -/
theorem left_of_blocked {task t : Task α} {world : World} {wake : Nat}
    (h : task.step world = .blocked t wake) : t.left = task.left := by
  obtain ⟨dialogue, stream, deadline⟩ := task
  cases dialogue with
  | done result => simp [step] at h
  | subscribe next =>
    simp only [step] at h
    split at h <;> cases h
  | send request next =>
    simp only [step, transmit] at h
    split at h
    · cases h
    · split at h <;> cases h
  | stream bytes next =>
    simp only [step, transmit] at h
    split at h <;> cases h
  | await awaited timeout next =>
    simp only [step] at h
    split at h
    · cases h
    · cases h
    · split at h
      · cases h
      · split at h <;> cases h
        rfl
  | pause length next =>
    simp only [step] at h
    split at h
    · cases h
    · split at h <;> cases h
      rfl

end Task
end SensorLink
