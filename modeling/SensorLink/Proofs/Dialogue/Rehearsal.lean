import SensorLink.Proofs.Dialogue.SideBySide
import SensorLink.Rehearsal.Pair

/-!
# Rehearsals are courses

The rehearsals that the library is tested with choose one schedule out of all: time passes only
while nobody has anything to do, and two callers go on in turns. So

> **a rehearsal of one dialogue is a course** (`run_eq_follow`), **and a rehearsal of two is a joint
> course** (`runBoth_eq_follow`),

and what is true under every schedule is true of rehearsals.
-/

namespace SensorLink

variable {α : Type}

namespace Course

/-- A rehearsal lets time pass in one piece, up to the moment at which something is due. -/
theorem waitUntil_eq (world : World) (time : Nat) :
    world.waitUntil time = world.undergo (.passes (time - world.now)) := by
  simp only [World.waitUntil, World.undergo]
  congr 1
  omega

theorem step_of_moved {task task' : Task α} {world world' : World} {acts : List Act}
    (h : task.step world = .moved task' world') :
    step ⟨task, world, acts⟩ = ⟨task', world', acts ++ task.acts world⟩ := by
  simp only [step, h]

/-- A task that waits in vain has nothing done, but it may have looked. -/
theorem step_of_blocked {task task' : Task α} {world : World} {acts : List Act}
    {wake : Nat} (h : task.step world = .blocked task' wake) :
    step ⟨task, world, acts⟩ = ⟨task', world, acts⟩ := by
  simp only [step, h]

theorem result_of_finished {task : Task α} {world : World} {r : Except Error α}
    (h : task.step world = .finished r) : task.dialogue.result? = some r := by
  obtain ⟨dialogue, stream, deadline⟩ := task
  cases dialogue with
  | done result =>
    cases h
    rfl
  | _ =>
    -- No other step is an end, whatever is found on the way.
    simp only [Task.step, Task.transmit] at h
    repeat' split at h
    all_goals cases h

theorem run_of_finished {limit : Option Nat} {task : Task α} {world : World} {r : Except Error α}
    (h : task.step world = .finished r) :
    Task.run limit [] task world = (.completed r, world) := by
  rw [Task.run]
  split <;> rename_i heq <;> rw [h] at heq <;> cases heq
  rfl

/-- A rehearsal goes on at once as long as there is something to do. -/
theorem run_of_moved {limit : Option Nat} {task task' : Task α} {world world' : World}
    (h : task.step world = .moved task' world') :
    Task.run limit [] task world = Task.run limit [] task' world' := by
  rw [Task.run]
  split <;> rename_i heq <;> rw [h] at heq <;> cases heq
  rfl

/-- Where a blocked dialogue stops or goes on: when the caller gives up, or at the end of its
wait. -/
theorem run_of_blocked (limit : Option Nat) {task task' : Task α} {world : World} {wake : Nat}
    (h : task.step world = .blocked task' wake) :
    (∃ time, Task.run limit [] task world = (.abandoned, world.waitUntil time)) ∨
    (∃ r, task'.step (world.waitUntil wake) = .finished r ∧
      Task.run limit [] task world = (.completed r, world.waitUntil wake)) ∨
    ∃ after world', task'.step (world.waitUntil wake) = .moved after world' ∧
      Task.run limit [] task world = Task.run limit [] after world' := by
  rw [Task.run]
  split <;> rename_i heq <;> rw [h] at heq <;> cases heq
  split
  · exact .inl ⟨world.now, by simp [World.waitUntil]⟩
  · simp only
    split
    · exact .inl ⟨_, rfl⟩
    · split
      · rename_i hend
        exact .inr (.inl ⟨_, hend, rfl⟩)
      · rename_i hnext
        exact .inr (.inr ⟨_, _, hnext, rfl⟩)
      · exact .inl ⟨_, rfl⟩

/-- **A rehearsal is a course.** Where the router does nothing unasked, time passes only while the
dialogue is blocked: up to the end of its wait, or to the moment at which the caller gives up. -/
theorem run_eq_follow (limit : Option Nat) (task : Task α) (world : World) (acts : List Act) :
    ∃ schedule, let course := follow schedule ⟨task, world, acts⟩
      (Task.run limit [] task world).2 = course.world ∧
      ∀ r, (Task.run limit [] task world).1 = .completed r → course.result? = some r := by
  -- By what is left of the task: less after a step that does something, or behind a wait.
  induction task using (Task.wellFounded_less (α := α)).induction generalizing world acts with
  | h task ih =>
  cases hstep : task.step world with
  | finished r =>
    rw [run_of_finished hstep]
    refine ⟨[], rfl, fun r' hr => ?_⟩
    cases hr
    exact result_of_finished hstep
  | moved task' world' =>
    obtain ⟨schedule, hcourse⟩ := ih task' (Task.less_of_moved hstep) world' _
    refine ⟨.step :: schedule, ?_⟩
    rw [run_of_moved hstep, follow_cons, move, step_of_moved hstep]
    exact hcourse
  | blocked task' wake =>
    rcases run_of_blocked limit hstep with
      ⟨time, hrun⟩ | ⟨r, hend, hrun⟩ | ⟨after, world', hnext, hrun⟩
    -- The caller gives up first.
    · refine ⟨[.meanwhile (.passes (time - world.now))], ?_⟩
      rw [hrun, waitUntil_eq]
      refine ⟨rfl, fun _ hr => ?_⟩
      cases hr
    -- The wait ends, and the dialogue with it.
    · refine ⟨[.step, .meanwhile (.passes (wake - world.now))], ?_⟩
      rw [hrun, follow_cons, move, step_of_blocked hstep, waitUntil_eq]
      refine ⟨rfl, fun r' hr => ?_⟩
      cases hr
      exact result_of_finished hend
    -- The wait ends, and the dialogue goes on.
    · have hless : Task.Less after task := by
        have hafter := Task.less_of_moved hnext
        unfold Task.Less InvImage at hafter ⊢
        rwa [Task.left_of_blocked hstep] at hafter
      obtain ⟨schedule, hcourse⟩ := ih after hless world' _
      refine ⟨.step :: .meanwhile (.passes (wake - world.now)) :: .step :: schedule, ?_⟩
      rw [hrun, follow_cons, move, step_of_blocked hstep, follow_cons, move, ← waitUntil_eq,
        follow_cons, move, step_of_moved hnext]
      exact hcourse

end Course

/-! ## Two dialogues in turns -/

namespace Task

theorem step_of_turn_moved {task task' : Task α} {world world' : World} (acts : List Act)
    (h : task.turn world = .moved task' world') :
    Course.step ⟨task, world, acts⟩ = ⟨task', world', acts ++ task.acts world⟩ := by
  unfold turn at h
  split at h <;> cases h
  exact Course.step_of_moved ‹_›

theorem step_of_turn_still {task task' : Task α} {world : World} {wake : Option Nat}
    (acts : List Act) (h : task.turn world = .still task' wake) :
    Course.step ⟨task, world, acts⟩ = ⟨task', world, acts⟩ := by
  unfold turn at h
  split at h <;> cases h
  · exact Course.step_of_blocked ‹_›
  · simp only [Course.step, ‹task.step world = _›]

end Task

namespace Joint

/-- What a rehearsal comes to is what a joint course comes to, under some schedule. -/
def Reaches (swapped : Bool) (joint : Joint α α)
    (found : (Option (Except Error α) × Option (Except Error α)) × World) : Prop :=
  ∃ moves, let reached := joint.follow moves
    found = (Task.resultsOfBoth swapped reached.first reached.second, reached.world)

variable {swapped : Bool} {x x' y y' : Task α} {world world' : World} {acts acts' : List Act}
  {found : (Option (Except Error α) × Option (Except Error α)) × World}

theorem Reaches.here (swapped : Bool) (joint : Joint α α) :
    Reaches swapped joint (Task.resultsOfBoth swapped joint.first joint.second, joint.world) :=
  ⟨[], rfl⟩

/-- What is reached after a move was to be reached before it. -/
theorem Reaches.of_move {joint : Joint α α} (move : JointMove)
    (h : Reaches swapped (joint.move move) found) : Reaches swapped joint found := by
  obtain ⟨moves, hmoves⟩ := h
  exact ⟨move :: moves, hmoves⟩

theorem Reaches.of_swap {joint : Joint α α} (h : Reaches (!swapped) joint.swap found) :
    Reaches swapped joint found := by
  obtain ⟨moves, rfl⟩ := h
  refine ⟨moves.map JointMove.swap, ?_⟩
  have hswap := joint.swap.swap_follow moves
  rw [show joint.swap.swap = joint from rfl] at hswap
  rw [← hswap]
  cases swapped <;> rfl

theorem Reaches.of_moved (hturn : x.turn world = .moved x' world')
    (h : Reaches swapped ⟨x', y, world', acts ++ x.acts world, acts'⟩ found) :
    Reaches swapped ⟨x, y, world, acts, acts'⟩ found := by
  refine .of_move .first ?_
  simp only [move, stepLeft, left, Task.step_of_turn_moved acts hturn]
  exact h

theorem Reaches.of_still {wake : Option Nat} (hturn : x.turn world = .still x' wake)
    (h : Reaches swapped ⟨x', y, world, acts, acts'⟩ found) :
    Reaches swapped ⟨x, y, world, acts, acts'⟩ found := by
  refine .of_move .first ?_
  simp only [move, stepLeft, left, Task.step_of_turn_still acts hturn]
  exact h

/-- The second caller may look in vain as well. It has the same rule by exchanging the two. -/
theorem Reaches.of_still_second {wake : Option Nat} (hturn : y.turn world = .still y' wake)
    (h : Reaches swapped ⟨x, y', world, acts, acts'⟩ found) :
    Reaches swapped ⟨x, y, world, acts, acts'⟩ found := by
  refine .of_move .second ?_
  simp only [move, swap, stepLeft, left, Task.step_of_turn_still acts' hturn]
  exact h

theorem Reaches.of_waitUntil {time : Nat}
    (h : Reaches swapped ⟨x, y, world.waitUntil time, acts, acts'⟩ found) :
    Reaches swapped ⟨x, y, world, acts, acts'⟩ found := by
  refine .of_move (.meanwhile (.passes (time - world.now))) ?_
  rw [Course.waitUntil_eq] at h
  exact h

/-- Turns are joint moves, and the one whose turn it is stands first. -/
theorem reaches_takeTurns (swapped first : Bool) (x y : Task α) (world : World)
    (acts acts' : List Act) :
    Reaches swapped ⟨x, y, world, acts, acts'⟩ (Task.takeTurns swapped first x y world) := by
  fun_induction Task.takeTurns swapped first x y world generalizing acts acts' with
  | case1 =>
    rename_i hx ih
    exact .of_moved hx (ih _ _)
  | case2 =>
    rename_i hx ih
    exact .of_still hx (.of_swap (ih _ _))
  | case3 =>
    rename_i hx _ _ _ hy ih
    exact .of_still hx (.of_swap (.of_moved hy (ih _ _)))
  | case4 =>
    rename_i hx _ _ _ hy _
    exact .of_still hx (.of_still_second hy (.here _ _))
  | case5 =>
    -- Both are blocked; time passes, and the first of them has something to do.
    rename_i hx _ _ _ hy _ _ _ _ _ hx' ih
    exact .of_still hx (.of_still_second hy (.of_waitUntil (.of_moved hx' (ih _ _))))
  | case6 =>
    rename_i hx _ _ _ hy _ _ _ _ _ hx' _ _ hy' ih
    refine .of_still hx (.of_still_second hy (.of_waitUntil (.of_still hx' ?_)))
    exact .of_swap (.of_moved hy' (ih _ _))
  | case7 =>
    rename_i hx _ _ _ hy _ _ _ _ _ hx' _ _ hy'
    refine .of_still hx (.of_still_second hy (.of_waitUntil (.of_still hx' ?_)))
    exact .of_still_second hy' (.here _ _)

/-- **A rehearsal of two dialogues is a joint course.** -/
theorem runBoth_eq_follow (d e : Dialogue α) (world : World) :
    ∃ moves, let joint := (start d e world).follow moves
      Task.runBoth d e world = ((joint.left.result?, joint.right.result?), joint.world) :=
  reaches_takeTurns false true { dialogue := d } { dialogue := e } world [] []

end Joint
end SensorLink
