import SensorLink.Rehearsal.Task

/-!
# One dialogue from beginning to end

The dialogue does what it can; when it is blocked, time passes until something happens: the next
thing that the router sends unasked, the end of the wait, or the moment at which the caller gives up
and drops the dialogue as it stands. Where two of these fall on one millisecond, the wait ends
first.
-/

namespace SensorLink

/-- How a dialogue ended. -/
inductive Ending (α : Type) where
  | completed (result : Except Error α)
  /-- The caller gave up on it. -/
  | abandoned

/-- Things that the router does unasked, each at its time. -/
abbrev Traffic := List (Nat × Batch)

namespace World

/-- The world at a time, unless it is later already. -/
def waitUntil (world : World) (time : Nat) : World := { world with now := max world.now time }

end World

namespace Task

variable {α : Type}

/-- Runs a dialogue to its end. `limit` is the time at which the caller gives up. -/
def run (limit : Option Nat) (traffic : Traffic) (task : Task α) (world : World) :
    Ending α × World :=
  match _h : task.step world with
  | .finished result => (.completed result, world)
  | .moved task world => run limit traffic task world
  | .blocked task wake =>
    if limit.any (· ≤ world.now) then (.abandoned, world)
    else
      let wait : Ending α × World :=
        if limit.any (· < wake) then (.abandoned, world.waitUntil (limit.getD wake))
        else
          match _h' : task.step (world.waitUntil wake) with
          | .finished result => (.completed result, world.waitUntil wake)
          | .moved task world => run limit traffic task world
          | .blocked _ _ => (.abandoned, world.waitUntil wake)
      match traffic with
      | [] => wait
      | (time, batch) :: rest =>
        if time < wake ∧ limit.all (time < ·) then
          run limit rest task ((world.waitUntil time).play batch)
        else wait
termination_by (traffic.length, task)
decreasing_by
  · exact Prod.Lex.right _ (less_of_moved _h)
  · refine Prod.Lex.right _ ?_
    have := less_of_moved _h'
    unfold Less InvImage at this
    rw [left_of_blocked _h] at this
    exact this
  · exact Prod.Lex.left _ _ (by simp)

end Task
end SensorLink
