/-!
# Watch channels

A watch channel holds one value, the latest. A receiver does not see every value, but it always
learns that there was a new one: values are numbered, and a receiver remembers the number that it
has seen.
-/

namespace SensorLink

/-- A watch channel. -/
structure Watch (α : Type) where
  value : α
  /-- How many values there were before this one. -/
  version : Nat := 0
  /-- Whether there will be no other value. -/
  closed : Bool := false
  deriving DecidableEq, Repr

/-- What a receiver that has seen a version finds. -/
inductive Watched (α : Type) where
  /-- There is no newer value yet. -/
  | unchanged
  /-- There is no newer value, and there never will be. -/
  | closed
  /-- There is a newer value, and this is the latest. -/
  | changed (value : α)
  deriving DecidableEq, Repr

namespace Watch

variable {α : Type}

/-- Replaces the value; equal values count as new ones too. -/
def publish (channel : Watch α) (value : α) : Watch α :=
  if channel.closed then channel else { channel with value, version := channel.version + 1 }

/-- Ends the channel. -/
def close (channel : Watch α) : Watch α := { channel with closed := true }

/-- What a receiver that has seen a version finds. -/
def look (channel : Watch α) (seen : Nat) : Watched α :=
  if seen ≠ channel.version then .changed channel.value
  else if channel.closed then .closed
  else .unchanged

end Watch
end SensorLink
