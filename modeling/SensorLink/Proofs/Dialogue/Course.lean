import SensorLink.Proofs.Packet.Layout
import SensorLink.Proofs.Reply.Look
import SensorLink.Rehearsal.Run

/-!
# The course of a dialogue

A dialogue takes its steps in a world that does not wait for it: packets arrive, time passes and
the link goes up and down between any two of its steps. A `Course` is a dialogue on its way in such
a world, together with what it has done so far, and a schedule says who moves when. Nothing else is
assumed of a schedule, so a statement about all schedules is a statement about all interleavings.

What a dialogue does on the way can be read off the dialogue alone. `Does` is that reading: it knows
the steps that each kind of dialogue can take and the hazards that can end it, and no world. One
step of a course is at most one such step, and so

> **a course does what its dialogue can do** (`does_follow`),

whatever the schedule. A dialogue that has ended does nothing more (`follow_of_result`).
-/

namespace SensorLink

/-! ## Schedules -/

/-- What can happen to a link and a clock, apart from what dialogues do. -/
inductive Happening where
  /-- A packet has been read and is handed out. -/
  | arrives (packet : Packet)
  | passes (milliseconds : Nat)
  /-- The link enters a state. It can be written to exactly while it is connected. -/
  | enters (state : LinkState)
  deriving DecidableEq, Repr

inductive Move where
  | step
  | meanwhile (what : Happening)
  deriving DecidableEq, Repr

namespace World

def undergo (world : World) : Happening → World
  | .arrives packet =>
    { world with link := Link.dispatch Observers.nobody world.link (.packet packet packet.layout) }
  | .passes milliseconds => { world with now := world.now + milliseconds }
  | .enters state =>
    { world with
      link := Link.enter Observers.nobody state
        { world.link with hasWriter := state = .connected } }

end World

/-! ## Acts -/

/-- What a dialogue does that leaves a trace. -/
inductive Act where
  /-- It has begun to listen, at a position in what the link delivers. -/
  | listened (position : Nat)
  /-- Bytes were written, and they were taken. -/
  | wrote (bytes : Bytes)
  /-- A wait came to its reply, the packet at a position in what the link delivers. -/
  | took (position : Nat) (packet : Packet)
  deriving DecidableEq, Repr

namespace Act

def written? : Act → Option Bytes
  | .wrote bytes => some bytes
  | _ => none

def taken? : Act → Option (Nat × Packet)
  | .took position packet => some (position, packet)
  | _ => none

end Act

def framesOf (acts : List Act) : List Bytes := acts.filterMap Act.written?

/-- The replies among some acts, each with its position. -/
def repliesOf (acts : List Act) : List (Nat × Packet) := acts.filterMap Act.taken?

@[simp] theorem framesOf_wrote (bytes : Bytes) (acts : List Act) :
    framesOf (.wrote bytes :: acts) = bytes :: framesOf acts := rfl

@[simp] theorem framesOf_took (position : Nat) (packet : Packet) (acts : List Act) :
    framesOf (.took position packet :: acts) = framesOf acts := rfl

@[simp] theorem framesOf_listened (position : Nat) (acts : List Act) :
    framesOf (.listened position :: acts) = framesOf acts := rfl

@[simp] theorem framesOf_append (acts more : List Act) :
    framesOf (acts ++ more) = framesOf acts ++ framesOf more := List.filterMap_append

namespace Task

variable {α : Type}

/-- What a task does in its next step. -/
def acts (task : Task α) (world : World) : List Act :=
  match task.dialogue with
  | .subscribe _ =>
    if world.link.isConnected then [.listened world.link.inbox.packets.tail] else []
  | .send request _ =>
    match (request world.unixTime).encode with
    | .ok bytes => if (world.write bytes).1 then [.wrote bytes] else []
    | .error _ => []
  | .stream bytes _ => if (world.write bytes).1 then [.wrote bytes] else []
  | .await awaited _ _ =>
    match task.stream.poll awaited world.link.inbox with
    | (some (.ok reply), stream) => [.took (stream.next - 1) (awaited.packet reply)]
    | _ => []
  | _ => []

end Task

/-- What a dialogue has come to, if it has come to an end. -/
def Dialogue.result? {α : Type} : Dialogue α → Option (Except Error α)
  | .done result => some result
  | _ => none

/-! ## Courses -/

/-- A dialogue on its way in a world, and what it has done. -/
structure Course (α : Type) where
  task : Task α
  world : World
  acts : List Act := []

namespace Course

variable {α : Type}

def start (dialogue : Dialogue α) (world : World) : Course α := ⟨{ dialogue }, world, []⟩

def step (course : Course α) : Course α :=
  match course.task.step course.world with
  | .finished _ => course
  | .moved task world => ⟨task, world, course.acts ++ course.task.acts course.world⟩
  | .blocked task _ => { course with task }

def move (course : Course α) : Move → Course α
  | .step => course.step
  | .meanwhile what => { course with world := course.world.undergo what }

def follow (schedule : List Move) (course : Course α) : Course α := schedule.foldl move course

def result? (course : Course α) : Option (Except Error α) := course.task.dialogue.result?

def frames (course : Course α) : List Bytes := framesOf course.acts

/-- The replies that ended a wait, each with its position. -/
def replies (course : Course α) : List (Nat × Packet) := repliesOf course.acts

@[simp] theorem follow_cons (move : Move) (schedule : List Move) (course : Course α) :
    course.follow (move :: schedule) = (course.move move).follow schedule := rfl

/-- A schedule can be cut anywhere. What has been proved of the course up to the cut serves for the
rest. -/
theorem follow_append (schedule later : List Move) (course : Course α) :
    course.follow (schedule ++ later) = (course.follow schedule).follow later :=
  List.foldl_append

theorem dialogue_of_result {course : Course α} {r : Except Error α} (h : course.result? = some r) :
    course.task.dialogue = .done r := by
  unfold result? at h
  cases hd : course.task.dialogue <;> rw [hd] at h <;> cases h
  rfl

theorem step_of_result {course : Course α} {r : Except Error α} (h : course.result? = some r) :
    course.step = course := by
  simp only [step, Task.step, dialogue_of_result h]

theorem follow_of_result {course : Course α} {r : Except Error α} (h : course.result? = some r)
    (later : List Move) :
    (course.follow later).task = course.task ∧ (course.follow later).acts = course.acts := by
  induction later generalizing course with
  | nil => exact ⟨rfl, rfl⟩
  | cons move later ih =>
    cases move with
    | step =>
      rw [follow_cons, Course.move, step_of_result h]
      exact ih h
    | meanwhile what =>
      have hsame : (course.move (.meanwhile what)).result? = some r := h
      exact ih hsame

/-- What a command has come to, it has come to for good. -/
theorem result_follow {course : Course α} {r : Except Error α} (h : course.result? = some r)
    (later : List Move) : (course.follow later).result? = some r := by
  rw [result?, (follow_of_result h later).1]
  exact h

end Course

/-! ## One step, by what the dialogue is about to do -/

namespace Course

variable {α : Type} (stream : ReplyStream) (deadline : Option Nat) (world : World)
  (done : List Act)

theorem step_done (r : Except Error α) :
    step ⟨⟨.done r, stream, deadline⟩, world, done⟩ = ⟨⟨.done r, stream, deadline⟩, world, done⟩ :=
  rfl

/-- To listen is the first thing that needs the link, so this is where a link that is down is found
out. -/
theorem step_subscribe (next : Dialogue α) :
    step ⟨⟨.subscribe next, stream, deadline⟩, world, done⟩ =
      if world.link.isConnected then
        ⟨⟨next, .subscribe world.link.inbox, none⟩, world,
          done ++ [.listened world.link.inbox.packets.tail]⟩
      else ⟨⟨.done (.error .notConnected), stream, none⟩, world, done⟩ := by
  simp only [step, Task.step, Task.acts, Task.goOn, Task.stop]
  cases world.link.isConnected with
  | true => rfl
  | false => simp

/-- Where sending and streaming agree. -/
def transmitted (bytes : Bytes) (next : Dialogue α) : Course α :=
  match world.write bytes with
  | (true, world) => ⟨⟨next, stream, none⟩, world, done ++ [.wrote bytes]⟩
  | (false, world) => ⟨⟨.done (.error (.linkLost .sendFailed)), stream, none⟩, world, done⟩

theorem step_stream (bytes : Bytes) (next : Dialogue α) :
    step ⟨⟨.stream bytes next, stream, deadline⟩, world, done⟩ =
      transmitted stream world done bytes next := by
  simp only [step, Task.step, Task.acts, Task.transmit, transmitted, Task.goOn, Task.stop]
  rcases world.write bytes with ⟨_ | _, after⟩
  · simp
  · rfl

/-- A packet is stamped with the time at which it is sent, and only then is it known whether it can
be encoded. -/
theorem step_send (request : UInt32 → Packet) (next : Dialogue α) :
    step ⟨⟨.send request next, stream, deadline⟩, world, done⟩ =
      match (request world.unixTime).encode with
      | .error cause => ⟨⟨.done (.error (.malformed cause)), stream, none⟩, world, done⟩
      | .ok bytes => transmitted stream world done bytes next := by
  simp only [step, Task.step, Task.acts, Task.transmit, transmitted, Task.goOn, Task.stop]
  cases (request world.unixTime).encode with
  | error cause => simp
  | ok bytes =>
    rcases hwrite : world.write bytes with ⟨_ | _, after⟩
    · simp [hwrite]
    · simp [hwrite]

/-- A wait that has found nothing begins, ends late or goes on. -/
def waited (awaited : Awaited) (timeout : Duration) (next : awaited.Reply → Dialogue α) :
    Course α :=
  match deadline with
  | none =>
    ⟨⟨.await awaited timeout next, stream, some (world.now + timeout.ticks)⟩, world, done⟩
  | some deadline =>
    if deadline ≤ world.now then
      ⟨⟨.done (.error (.timedOut timeout)), stream, none⟩, world, done⟩
    else ⟨⟨.await awaited timeout next, stream, some deadline⟩, world, done⟩

/-- A wait that looks and finds nothing goes on to wait until its time is up. -/
theorem step_await (awaited : Awaited) (timeout : Duration)
    (next : awaited.Reply → Dialogue α) :
    step ⟨⟨.await awaited timeout next, stream, deadline⟩, world, done⟩ =
      match stream.poll awaited world.link.inbox with
      | (some (.ok reply), after) =>
        ⟨⟨next reply, after, none⟩, world,
          done ++ [.took (after.next - 1) (awaited.packet reply)]⟩
      | (some (.error e), after) => ⟨⟨.done (.error e), after, none⟩, world, done⟩
      | (none, after) => waited after deadline world done awaited timeout next := by
  simp only [step, Task.step, Task.acts, waited, Task.goOn, Task.stop]
  rcases hpoll : stream.poll awaited world.link.inbox with ⟨_ | found, after⟩
  · cases deadline with
    | none => simp
    | some deadline =>
      by_cases hlate : deadline ≤ world.now
      · simp [hlate]
      · simp [hlate]
  · cases found with
    | ok reply => rfl
    | error e => simp

theorem step_pause (length : Duration) (next : Dialogue α) :
    step ⟨⟨.pause length next, stream, deadline⟩, world, done⟩ =
      match deadline with
      | none => ⟨⟨.pause length next, stream, some (world.now + length.ticks)⟩, world, done⟩
      | some deadline =>
        if deadline ≤ world.now then ⟨⟨next, stream, none⟩, world, done⟩
        else ⟨⟨.pause length next, stream, some deadline⟩, world, done⟩ := by
  simp only [step, Task.step, Task.acts, Task.goOn]
  cases deadline with
  | none => simp
  | some deadline =>
    by_cases hover : deadline ≤ world.now
    · simp [hover]
    · simp [hover]

end Course

/-! ## What a dialogue can do -/

namespace Dialogue

variable {α : Type}

/-- What can go wrong in the next step of a dialogue. -/
inductive Hazard : Dialogue α → Error → Prop where
  | down {next : Dialogue α} : Hazard (.subscribe next) .notConnected
  | unsendable {request : UInt32 → Packet} {next : Dialogue α} {unixTime : UInt32}
      {cause : Malformed} (h : (request unixTime).encode = .error cause) :
    Hazard (.send request next) (.malformed cause)
  | unsent {request : UInt32 → Packet} {next : Dialogue α} :
    Hazard (.send request next) (.linkLost .sendFailed)
  | unstreamed {bytes : Bytes} {next : Dialogue α} :
    Hazard (.stream bytes next) (.linkLost .sendFailed)
  | late {awaited : Awaited} {timeout : Duration} {next : awaited.Reply → Dialogue α} :
    Hazard (.await awaited timeout next) (.timedOut timeout)
  | missed {awaited : Awaited} {timeout : Duration} {next : awaited.Reply → Dialogue α}
      (count : Nat) : Hazard (.await awaited timeout next) (.repliesMissed count)
  | lost {awaited : Awaited} {timeout : Duration} {next : awaited.Reply → Dialogue α}
      (cause : LinkLoss) : Hazard (.await awaited timeout next) (.linkLost cause)
  | refused {awaited : Awaited} {timeout : Duration} {next : awaited.Reply → Dialogue α}
      {packet : Packet} {e : Error} (h : awaited.judge packet = some (.error e)) :
    Hazard (.await awaited timeout next) e

/-- What a dialogue can have done, and what is left of it then. -/
inductive Does : Dialogue α → List Act → Dialogue α → Prop where
  | rest (d : Dialogue α) : Does d [] d
  | fails {d : Dialogue α} {e : Error} (h : Hazard d e) : Does d [] (.done (.error e))
  | listens {next left : Dialogue α} {acts : List Act} (position : Nat)
      (later : Does next acts left) : Does (.subscribe next) (.listened position :: acts) left
  | sends {request : UInt32 → Packet} {next left : Dialogue α} {acts : List Act}
      {unixTime : UInt32} {bytes : Bytes} (h : (request unixTime).encode = .ok bytes)
      (later : Does next acts left) : Does (.send request next) (.wrote bytes :: acts) left
  | streams {bytes : Bytes} {next left : Dialogue α} {acts : List Act}
      (later : Does next acts left) : Does (.stream bytes next) (.wrote bytes :: acts) left
  | takes {awaited : Awaited} {timeout : Duration} {next : awaited.Reply → Dialogue α}
      {left : Dialogue α} {acts : List Act} (position : Nat) {reply : awaited.Reply}
      (h : awaited.judge (awaited.packet reply) = some (.ok reply))
      (later : Does (next reply) acts left) :
    Does (.await awaited timeout next) (.took position (awaited.packet reply) :: acts) left
  | pauses {length : Duration} {next left : Dialogue α} {acts : List Act}
      (later : Does next acts left) : Does (.pause length next) acts left

theorem Does.of_done {r : Except Error α} {acts : List Act} {left : Dialogue α}
    (h : Does (.done r) acts left) : acts = [] ∧ left = .done r := by
  cases h with
  | rest => exact ⟨rfl, rfl⟩
  | fails h => cases h

/-- What a dialogue has done in two stretches, it has done in one. -/
theorem Does.append {d middle left : Dialogue α} {acts more : List Act} (h : Does d acts middle)
    (h' : Does middle more left) : Does d (acts ++ more) left := by
  induction h with
  | rest => exact h'
  | fails hazard =>
    obtain ⟨rfl, rfl⟩ := h'.of_done
    exact .fails hazard
  | listens position _ ih => exact .listens position (ih h')
  | sends hencode _ ih => exact .sends hencode (ih h')
  | streams _ ih => exact .streams (ih h')
  | takes position hjudge _ ih => exact .takes position hjudge (ih h')
  | pauses _ ih => exact .pauses (ih h')

end Dialogue

/-! ## A course does what its dialogue can do -/

namespace ReplyStream

/-- A wait that fails does so because of a lag, of the link, or of a packet that it was for. -/
theorem hazard_of_poll {α : Type} {awaited : Awaited} {timeout : Duration}
    {next : awaited.Reply → Dialogue α} {inbox : Inbox} {stream after : ReplyStream} {e : Error}
    (h : poll awaited inbox stream = (some (.error e), after)) :
    Dialogue.Hazard (.await awaited timeout next) e := by
  have hlook := look awaited inbox stream
  rw [h] at hlook
  generalize hx : (some (Except.error e), after) = x at hlook
  cases hlook with
  | lagged => cases hx; exact .missed _
  | judged _ _ _ hjudge => cases hx; exact .refused hjudge
  | ended => cases hx; exact .lost _
  | passed =>
    obtain ⟨lost, hlost, herr⟩ := Option.map_eq_some_iff.mp (congrArg Prod.fst hx).symm
    cases herr
    rw [pollState_error hlost]
    exact .lost _

/-- A reply that a wait ends with was accepted as the packet that it came in. -/
theorem judge_of_poll {awaited : Awaited} {inbox : Inbox} {stream after : ReplyStream}
    {reply : awaited.Reply} (h : poll awaited inbox stream = (some (.ok reply), after)) :
    awaited.judge (awaited.packet reply) = some (.ok reply) := by
  obtain ⟨_, _, -, -, hjudge, -⟩ := reply_of_poll h
  exact hjudge

end ReplyStream

namespace Course

variable {α : Type}

open Dialogue (Does)

/-- Sending is done or it has failed, and if it has failed there is no act. -/
theorem does_transmitted (stream : ReplyStream) (world : World) (done : List Act) (bytes : Bytes)
    (next : Dialogue α) :
    (transmitted stream world done bytes next).acts = done ++ [.wrote bytes] ∧
        (transmitted stream world done bytes next).task.dialogue = next ∨
      (transmitted stream world done bytes next).acts = done ∧
        (transmitted stream world done bytes next).task.dialogue =
          .done (.error (.linkLost .sendFailed)) := by
  unfold transmitted
  split
  · exact .inl ⟨rfl, rfl⟩
  · exact .inr ⟨rfl, rfl⟩

/-- **A step is as good as what the dialogue asks for**: it does the next acts of the dialogue and
leaves the rest of it, and it takes back nothing that was done. -/
theorem does_step (course : Course α) :
    ∃ acts, course.step.acts = course.acts ++ acts ∧
      Does course.task.dialogue acts course.step.task.dialogue := by
  obtain ⟨⟨dialogue, stream, deadline⟩, world, done⟩ := course
  -- Whatever leaves no trace adds no act.
  have hnil : done = done ++ [] := (List.append_nil done).symm
  cases dialogue with
  | done result => exact ⟨[], hnil, .rest _⟩
  | subscribe next =>
    rw [step_subscribe]
    split
    · exact ⟨_, rfl, .listens _ (.rest _)⟩
    · exact ⟨[], hnil, .fails .down⟩
  | send request next =>
    rw [step_send]
    cases hencode : (request world.unixTime).encode with
    | error cause => exact ⟨[], hnil, .fails (.unsendable hencode)⟩
    | ok bytes =>
      rcases does_transmitted stream world done bytes next with ⟨hacts, hleft⟩ | ⟨hacts, hleft⟩
      · exact ⟨_, hacts, by rw [hleft]; exact .sends hencode (.rest _)⟩
      · exact ⟨[], hacts.trans hnil, by rw [hleft]; exact .fails .unsent⟩
  | stream bytes next =>
    rw [step_stream]
    rcases does_transmitted stream world done bytes next with ⟨hacts, hleft⟩ | ⟨hacts, hleft⟩
    · exact ⟨_, hacts, by rw [hleft]; exact .streams (.rest _)⟩
    · exact ⟨[], hacts.trans hnil, by rw [hleft]; exact .fails .unstreamed⟩
  | await awaited timeout next =>
    rw [step_await]
    split
    · rename_i reply after hpoll
      exact ⟨_, rfl, .takes _ (ReplyStream.judge_of_poll hpoll) (.rest _)⟩
    · rename_i e after hpoll
      exact ⟨[], hnil, .fails (ReplyStream.hazard_of_poll hpoll)⟩
    · unfold waited
      split
      · exact ⟨[], hnil, .rest _⟩
      · split
        · exact ⟨[], hnil, .fails .late⟩
        · exact ⟨[], hnil, .rest _⟩
  | pause length next =>
    rw [step_pause]
    split
    · exact ⟨[], hnil, .rest _⟩
    · split
      · exact ⟨[], hnil, .pauses (.rest _)⟩
      · exact ⟨[], hnil, .rest _⟩

/-- **A course does what its dialogue can do**, under every schedule. -/
theorem does_follow (schedule : List Move) (course : Course α) :
    ∃ acts, (course.follow schedule).acts = course.acts ++ acts ∧
      Does course.task.dialogue acts (course.follow schedule).task.dialogue := by
  induction schedule generalizing course with
  | nil => exact ⟨[], (List.append_nil _).symm, .rest _⟩
  | cons move schedule ih =>
    obtain ⟨later, hlater, hdoes⟩ := ih (course.move move)
    cases move with
    | meanwhile what => exact ⟨later, hlater, hdoes⟩
    | step =>
      obtain ⟨now, hnow, hstep⟩ := course.does_step
      refine ⟨now ++ later, ?_, hstep.append hdoes⟩
      rw [follow_cons, hlater, ← List.append_assoc, ← hnow]
      rfl

theorem does_start (schedule : List Move) (dialogue : Dialogue α) (world : World) :
    Does dialogue ((start dialogue world).follow schedule).acts
      ((start dialogue world).follow schedule).task.dialogue := by
  obtain ⟨acts, hacts, hdoes⟩ := (start dialogue world).does_follow schedule
  rw [hacts]
  exact hdoes

end Course
end SensorLink
