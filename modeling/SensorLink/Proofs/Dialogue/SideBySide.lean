import SensorLink.Proofs.Dialogue.Concern
import SensorLink.Proofs.Dialogue.Exchange

/-!
# Commands side by side

Callers share one link, and what they do on it is interleaved step by step. `Joint` is two dialogues
on their way in one world, with any order of their steps and of what happens meanwhile.

Seen from one of them the steps of the other do not show (`alike_second`), and the replies to the
other are packets that it does not heed. So each of them does what it would do alone with only its
own replies:

> **a command is touched neither by unrelated packets nor by a command beside it**
> (`untouched_of_concerns`).

The two may even be addressed to one device: each looks at the packets for itself.
-/

namespace SensorLink

variable {α β : Type} {wanted : Packet → Bool}

/-! ## Two dialogues in one world -/

inductive JointMove where
  /-- The first of the two takes a step. -/
  | first
  | second
  | meanwhile (what : Happening)
  deriving DecidableEq, Repr

namespace JointMove

def swap : JointMove → JointMove
  | .first => .second
  | .second => .first
  | .meanwhile what => .meanwhile what

/-- What the first of the two would have of the move if it were alone. -/
def forFirst : JointMove → Option Move
  | .first => some .step
  | .second => none
  | .meanwhile what => some (.meanwhile what)

def forSecond (move : JointMove) : Option Move := move.swap.forFirst

end JointMove

structure Joint (α β : Type) where
  first : Task α
  second : Task β
  world : World
  firstActs : List Act := []
  secondActs : List Act := []

namespace Joint

def start (d : Dialogue α) (e : Dialogue β) (world : World) : Joint α β :=
  { first := { dialogue := d }, second := { dialogue := e }, world }

def swap (joint : Joint α β) : Joint β α :=
  ⟨joint.second, joint.first, joint.world, joint.secondActs, joint.firstActs⟩

/-- The course of the first of the two. -/
def left (joint : Joint α β) : Course α := ⟨joint.first, joint.world, joint.firstActs⟩

def right (joint : Joint α β) : Course β := joint.swap.left

def stepLeft (joint : Joint α β) : Joint α β :=
  let course := joint.left.step
  { joint with first := course.task, world := course.world, firstActs := course.acts }

def move (joint : Joint α β) : JointMove → Joint α β
  | .first => joint.stepLeft
  | .second => joint.swap.stepLeft.swap
  | .meanwhile what => { joint with world := joint.world.undergo what }

def follow (moves : List JointMove) (joint : Joint α β) : Joint α β := moves.foldl move joint

/-- Neither of the two ever misses a packet. -/
def keepsUp : List JointMove → Joint α β → Bool
  | [], joint => joint.left.inReach && joint.right.inReach
  | move :: moves, joint =>
    joint.left.inReach && joint.right.inReach && keepsUp moves (joint.move move)

/-- Two dialogues side by side have no first and second but by name: with the names exchanged each
move does the same. -/
theorem swap_move (joint : Joint α β) (move : JointMove) :
    (joint.move move).swap = joint.swap.move move.swap := by
  cases move <;> rfl

theorem swap_follow (moves : List JointMove) (joint : Joint α β) :
    (joint.follow moves).swap = joint.swap.follow (moves.map JointMove.swap) := by
  induction moves generalizing joint with
  | nil => rfl
  | cons move moves ih => exact (ih _).trans (congrArg (follow _) (joint.swap_move move))

theorem keepsUp_swap (moves : List JointMove) (joint : Joint α β) :
    joint.swap.keepsUp (moves.map JointMove.swap) = joint.keepsUp moves := by
  induction moves generalizing joint with
  | nil => exact Bool.and_comm _ _
  | cons move moves ih =>
    simp only [List.map_cons, keepsUp]
    rw [← swap_move, ih, Bool.and_comm joint.swap.left.inReach]
    rfl

theorem inReach_of_keepsUp {moves : List JointMove} {joint : Joint α β}
    (h : joint.keepsUp moves = true) : joint.left.inReach = true := by
  cases moves with
  | nil => exact (Bool.and_eq_true_iff.mp h).1
  | cons move moves => exact (Bool.and_eq_true_iff.mp (Bool.and_eq_true_iff.mp h).1).1

theorem keepsUp_of_cons {move : JointMove} {moves : List JointMove} {joint : Joint α β}
    (h : joint.keepsUp (move :: moves) = true) : (joint.move move).keepsUp moves = true :=
  (Bool.and_eq_true_iff.mp h).2

/-! ## One of the two beside itself alone -/

/-- A step of the other changes nothing that the first can tell. -/
theorem alike_second {joint : Joint α β} {course : Course α}
    (h : Course.Alike wanted joint.left course) :
    Course.Alike wanted (joint.move .second).left course := by
  obtain ⟨hquiet, hview, hinbox⟩ := joint.right.quiet_step h.world.quiet
  refine ⟨h.dialogue, h.deadline, h.frames, ⟨h.world.view.trans hview.symm, hquiet, h.world.quiet'⟩,
    ?_⟩
  change SameAhead wanted joint.first.stream _ joint.right.step.world.link.inbox.packets _
  rw [hinbox]
  exact h.ahead

/-- By induction on the moves: what the other dialogue does in between is not heeded by this one, so
that it goes as if it were alone. -/
theorem alike_follow_left {moves : List JointMove} {joint : Joint α β} {course : Course α}
    {schedule : List Move} (hagree : Agree wanted (moves.filterMap JointMove.forFirst) schedule)
    (h : Course.Alike wanted joint.left course)
    (hheeds : joint.first.dialogue.HeedsOnly wanted) (hkeeps : joint.keepsUp moves = true)
    (hkeeps' : course.keepsUp schedule = true) :
    Course.Alike wanted (joint.follow moves).left (course.follow schedule) := by
  -- The schedule of the lone course changes with every move that the first dialogue sees.
  induction moves generalizing joint course schedule with
  | nil =>
    have hreach : joint.left.keepsUp [] = true := inReach_of_keepsUp hkeeps
    exact Course.alike_follow hagree h hheeds hreach hkeeps'
  | cons move moves ih =>
    have hlater := keepsUp_of_cons hkeeps
    cases move with
    | second => exact ih hagree (alike_second h) hheeds hlater hkeeps'
    | first =>
      have hagree : Agree wanted (.step :: moves.filterMap JointMove.forFirst) schedule := hagree
      rcases Course.alike_next hagree h hkeeps' with
        ⟨p, hmove, -⟩ | ⟨reached, later, heq, h, hagree, hkeeps'⟩
      · cases hmove
      · have hstep : Course.Alike wanted (joint.move .first).left reached.step :=
          Course.alike_step h hheeds (inReach_of_keepsUp hkeeps) (Course.inReach_of_keepsUp hkeeps')
        rw [heq]
        exact ih hagree hstep (joint.left.heedsOnly_move hheeds .step) hlater
          (Course.keepsUp_of_cons hkeeps')
    | meanwhile what =>
      have hagree : Agree wanted (.meanwhile what :: moves.filterMap JointMove.forFirst)
        schedule := hagree
      rcases Course.alike_next hagree h hkeeps' with
        ⟨p, hmove, hp, hrest⟩ | ⟨reached, later, heq, h, hagree, hkeeps'⟩
      -- An unwanted packet: the lone course may not have it in its schedule at all.
      · cases hmove
        exact ih hrest (Course.alike_unheeded h hp) hheeds hlater hkeeps'
      · have hmove : Course.Alike wanted (joint.move (.meanwhile what)).left
            (reached.move (.meanwhile what)) := Course.alike_meanwhile h what
        rw [heq]
        exact ih hagree hmove hheeds hlater (Course.keepsUp_of_cons hkeeps')

/-- What the first of the two does, it would do alone. -/
theorem left_of_filter_eq {d : Dialogue α} {e : Dialogue β} {world : World}
    (hheeds : d.HeedsOnly wanted) (hquiet : world.Quiet) {moves : List JointMove}
    {schedule : List Move}
    (hagree : (moves.filterMap JointMove.forFirst).filter (Move.heeded wanted) =
      schedule.filter (Move.heeded wanted))
    (hkeeps : (start d e world).keepsUp moves = true)
    (hkeeps' : (Course.start d world).keepsUp schedule = true) :
    let alone := (Course.start d world).follow schedule
    let beside := ((start d e world).follow moves).left
    beside.result? = alone.result? ∧ beside.frames = alone.frames := by
  intro alone beside
  have halike : Course.Alike wanted beside alone :=
    alike_follow_left (agree_of_filter_eq hagree) (Course.alike_start d hquiet) hheeds hkeeps
      hkeeps'
  exact ⟨halike.result.symm, halike.frames.symm⟩

end Joint

namespace Dialogue

/-- **A command is touched neither by unrelated packets nor by a command beside it.** Packets that
have nothing to do with it may be put in or left out anywhere; and beside another command, in
whatever order the two take their steps, it does what it does alone with its own replies. -/
theorem untouched_of_concerns {d : Dialogue α} {e : Dialogue β} {concern concern' : Concern}
    (hd : Concerns d concern) (he : Concerns e concern') {world : World} (hquiet : world.Quiet) :
    (∀ schedule schedule' : List Move,
      schedule.filter (Move.heeded concern.wants) = schedule'.filter (Move.heeded concern.wants) →
      (Course.start d world).keepsUp schedule = true →
      (Course.start d world).keepsUp schedule' = true →
      let course := (Course.start d world).follow schedule
      let course' := (Course.start d world).follow schedule'
      course'.result? = course.result? ∧ course'.frames = course.frames) ∧
    ∀ (moves : List JointMove) (schedule schedule' : List Move),
      (moves.filterMap JointMove.forFirst).filter (Move.heeded concern.wants) =
        schedule.filter (Move.heeded concern.wants) →
      (moves.filterMap JointMove.forSecond).filter (Move.heeded concern'.wants) =
        schedule'.filter (Move.heeded concern'.wants) →
      (Joint.start d e world).keepsUp moves = true →
      (Course.start d world).keepsUp schedule = true →
      (Course.start e world).keepsUp schedule' = true →
      let joint := (Joint.start d e world).follow moves
      let alone := (Course.start d world).follow schedule
      let alone' := (Course.start e world).follow schedule'
      (joint.left.result? = alone.result? ∧ joint.left.frames = alone.frames) ∧
        joint.right.result? = alone'.result? ∧ joint.right.frames = alone'.frames := by
  have hheeds := heedsOnly_of_concerns hd
  have hheeds' := heedsOnly_of_concerns he
  refine ⟨fun schedule schedule' hagree hkeeps hkeeps' => ?_, ?_⟩
  · exact Course.follow_of_agree hheeds hquiet (agree_of_filter_eq hagree) hkeeps hkeeps'
  · intro moves schedule schedule' hagree hagree' hkeeps halone halone'
    refine ⟨Joint.left_of_filter_eq hheeds hquiet hagree hkeeps halone, ?_⟩
    -- The second is the first of the two with their places changed.
    have hright : ((Joint.start d e world).follow moves).right =
        ((Joint.start e d world).follow (moves.map JointMove.swap)).left :=
      congrArg Joint.left (Joint.swap_follow moves _)
    have hmoves : (moves.map JointMove.swap).filterMap JointMove.forFirst =
        moves.filterMap JointMove.forSecond := List.filterMap_map
    rw [← hmoves] at hagree'
    rw [← Joint.keepsUp_swap] at hkeeps
    simp only [hright]
    exact Joint.left_of_filter_eq hheeds' hquiet hagree' hkeeps halone'

set_option maxRecDepth 2000 in
/-- Two modules restart at once, and the one that was asked last answers first. -/
theorem untouched_of_concerns_two_restarts :
    let binding : ModuleBinding := .specialised Illuminance.handler Illuminance.table
    let restart (device : String) := command "illuminance" binding "device_restart" device {}
    let consent (device : DeviceId) : DownlinkResponse :=
      { unixTime := 0, device, sensor := 0, order := 0xFFFF, command := 0xFD, result := 0x00 }
    let arrives (device : DeviceId) : Happening := .arrives (.downlinkResponse (consent device))
    let moves : List JointMove :=
      [.first, .second, .first, .second, .meanwhile (arrives 0x2468800203400005), .second,
        .meanwhile (arrives 0x2468800203400004), .first]
    (Concerns (restart "2468800203400004") (.device 0x2468800203400004) ∧
      Concerns (restart "2468800203400005") (.device 0x2468800203400005)) ∧
    Exchange.upWorld.Quiet ∧
    let joint := (Joint.start (restart "2468800203400004") (restart "2468800203400005")
      Exchange.upWorld).follow moves
    joint.left.result? = some (.ok (.response (consent 0x2468800203400004))) ∧
      joint.right.result? = some (.ok (.response (consent 0x2468800203400005))) := by
  intro binding restart consent arrives moves
  let alone (device : DeviceId) : List Move :=
    [.step, .step, .meanwhile (arrives device), .step]
  have hfirst : Concerns (restart "2468800203400004") (.device 0x2468800203400004) :=
    .device rfl nofun rfl
  have hsecond : Concerns (restart "2468800203400005") (.device 0x2468800203400005) :=
    .device rfl nofun rfl
  refine ⟨⟨hfirst, hsecond⟩, Exchange.ready_upWorld.quiet, ?_⟩
  have huntouched := (untouched_of_concerns hfirst hsecond Exchange.ready_upWorld.quiet).2 moves
    (alone 0x2468800203400004) (alone 0x2468800203400005) rfl rfl (by decide) (by decide)
    (by decide)
  have hresult : ((Course.start (restart "2468800203400004") Exchange.upWorld).follow
      (alone 0x2468800203400004)).result? =
        some (.ok (.response (consent 0x2468800203400004))) := rfl
  have hresult' : ((Course.start (restart "2468800203400005") Exchange.upWorld).follow
      (alone 0x2468800203400005)).result? =
        some (.ok (.response (consent 0x2468800203400005))) := rfl
  exact ⟨huntouched.1.1.trans hresult, huntouched.2.1.trans hresult'⟩

end Dialogue
end SensorLink
