import SensorLink.Rehearsal.Run

/-!
# Two dialogues side by side

Two callers use one link. They take turns: one does what it can until it is blocked, then the other;
and as long as what one did has given the other something to do, that one goes on at once. When both
are blocked, time passes until the earlier of their waits ends, and the caller whose turn it was
last is the first to look.
-/

namespace SensorLink.Task

variable {α : Type}

/-- The result of a dialogue that has ended. -/
def result? (task : Task α) : Option (Except Error α) :=
  match task.dialogue with
  | .done result => some result
  | _ => none

/-- What a task makes of its turn. -/
inductive Turn (α : Type) where
  | moved (task : Task α) (world : World)
  /-- There is nothing to do, before a certain time or at all. -/
  | still (task : Task α) (wake : Option Nat)

/-- Does one thing, if there is one to do. -/
def turn (task : Task α) (world : World) : Turn α :=
  match task.step world with
  | .moved task world => .moved task world
  | .blocked task wake => .still task (some wake)
  | .finished _ => .still task none

/-- A turn that did something has used up some of its dialogue. -/
theorem less_of_turn {task t : Task α} {world w : World} (h : task.turn world = .moved t w) :
    Less t task := by
  unfold turn at h
  split at h <;> cases h
  rename_i hstep
  exact less_of_moved hstep

/-- A turn that did nothing has left the dialogue as it was. -/
theorem left_of_turn {task t : Task α} {world : World} {wake : Option Nat}
    (h : task.turn world = .still t wake) : t.left = task.left := by
  unfold turn at h
  split at h <;> cases h
  · rename_i hstep
    exact left_of_blocked hstep
  · rfl

/-- What is left of two dialogues, in the order in which they were given. -/
def leftOfBoth (swapped : Bool) (x y : Task α) : (Dialogue α × Nat) × (Dialogue α × Nat) :=
  if swapped then (y.left, x.left) else (x.left, y.left)

/-- The results of two dialogues, in the order in which they were given. -/
def resultsOfBoth (swapped : Bool) (x y : Task α) :
    Option (Except Error α) × Option (Except Error α) :=
  if swapped then (y.result?, x.result?) else (x.result?, y.result?)

/-- The earlier of two times, where there is one. -/
def earlier : Option Nat → Option Nat → Option Nat
  | some a, some b => some (min a b)
  | some a, none => some a
  | none, b => b

/-- One caller's step makes the pair smaller, whichever of the two it was and in whichever order
they stand. The two of them end by it. -/
theorem lex_of_less {swapped : Bool} {x x' x'' y y' : Task α} (hless : Less x'' x')
    (hx : x'.left = x.left) (hy : y'.left = y.left) :
    Prod.Lex (Prod.Lex Dialogue.After (· < ·)) (Prod.Lex Dialogue.After (· < ·))
      (leftOfBoth swapped x'' y') (leftOfBoth swapped x y) := by
  have hless : Prod.Lex Dialogue.After (· < ·) x''.left x.left := hx ▸ hless
  unfold leftOfBoth
  cases swapped
  · exact Prod.Lex.left _ _ hless
  · simp only [if_true, hy]
    exact Prod.Lex.right _ hless

theorem leftOfBoth_swap (swapped : Bool) (x y : Task α) :
    leftOfBoth (!swapped) y x = leftOfBoth swapped x y := by
  cases swapped <;> rfl

/-- Lets two dialogues take turns, `x` being the one whose turn it is. `first` says that the other
has not had its turn since `x` was found to have something to do. -/
def takeTurns (swapped first : Bool) (x y : Task α) (world : World) :
    (Option (Except Error α) × Option (Except Error α)) × World :=
  match _hx : x.turn world with
  | .moved x' world => takeTurns swapped first x' y world
  | .still x' wakeX =>
    -- The other has not been asked since, so it may have something to do before time passes.
    if _h : first then takeTurns (!swapped) false y x' world
    else
      match _hy : y.turn world with
      | .moved y' world => takeTurns (!swapped) false y' x' world
      | .still y' wakeY =>
        match earlier wakeX wakeY with
        | none => (resultsOfBoth swapped x' y', world)
        | some time =>
          let later := world.waitUntil time
          match _hx' : x'.turn later with
          | .moved x'' world => takeTurns swapped true x'' y' world
          | .still x'' _ =>
            match _hy' : y'.turn later with
            | .moved y'' world => takeTurns (!swapped) false y'' x'' world
            | .still y'' _ => (resultsOfBoth swapped x'' y'', later)
termination_by (leftOfBoth swapped x y, first.toNat)
decreasing_by
  · exact Prod.Lex.left _ _ (lex_of_less (less_of_turn _hx) rfl rfl)
  · subst _h
    rw [leftOfBoth_swap]
    unfold leftOfBoth
    rw [left_of_turn _hx]
    exact Prod.Lex.right _ (by decide)
  · rw [← leftOfBoth_swap swapped x y]
    exact Prod.Lex.left _ _ (lex_of_less (less_of_turn _hy) rfl (left_of_turn _hx))
  · exact Prod.Lex.left _ _
      (lex_of_less (less_of_turn _hx') (left_of_turn _hx) (left_of_turn _hy))
  · rw [← leftOfBoth_swap swapped x y]
    exact Prod.Lex.left _ _
      (lex_of_less (less_of_turn _hy') (left_of_turn _hy)
        ((left_of_turn _hx').trans (left_of_turn _hx)))

/-- Runs two dialogues side by side to their ends. -/
def runBoth (x y : Dialogue α) (world : World) :
    (Option (Except Error α) × Option (Except Error α)) × World :=
  takeTurns false true { dialogue := x } { dialogue := y } world

end SensorLink.Task
