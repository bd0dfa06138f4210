import SensorLink.Link.Connect

/-!
# Observers

An observer hears everything that the link tells and may call the link from inside any of it. What
the observers do is their own affair, and so it is any function of what has happened so far: for
each thing that one of them is told, the calls that it makes.

Telling is by recursion on `depth`, how deeply calls stand inside one another. A call that an
observer makes tells the observers things in turn, one level deeper; at depth zero they only listen.
A run in which every call returns has some depth.
-/

namespace SensorLink

/-- The observers of a link. -/
structure Observers where
  /-- How many there are. -/
  count : Nat
  /-- The calls that an observer makes when it has been told something, by what has happened until
  then, what it has been told included. -/
  react : (history : Array LinkEvent) → (observer : Nat) → Notice → List Call := fun _ _ _ => []

namespace Observers

/-- Tells one observer one thing, `calls` being the way in which its calls are made. -/
def tellOne (observers : Observers) (calls : List Call → Link → Link) (observer : Nat)
    (notice : Notice) (link : Link) : Link :=
  let link := link.record (.told observer notice)
  calls (observers.react link.events observer notice) link

/-- Tells every observer some things, in turn. -/
def tellAll (observers : Observers) (calls : List Call → Link → Link) : Tell := fun notices link =>
  (List.range observers.count).foldl (fun link observer =>
    notices.foldl (fun link notice => observers.tellOne calls observer notice link) link) link

/-- Tells every observer some things; calls from inside stand at most `depth` deep. -/
def tell (observers : Observers) : (depth : Nat) → Tell
  | 0 => observers.tellAll fun _ link => link
  | depth + 1 => observers.tellAll (Link.performAll (observers.tell depth) .fromObserver)

/-- No observers at all. -/
def nobody : Tell := fun _ link => link

theorem tellAll_of_count_eq_zero {observers : Observers} (h : observers.count = 0)
    (calls : List Call → Link → Link) : observers.tellAll calls = nobody := by
  funext notices link
  simp [tellAll, h, nobody]

end Observers
end SensorLink
