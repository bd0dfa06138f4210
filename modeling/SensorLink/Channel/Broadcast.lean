/-!
# Broadcast channels

Everything that is sent on a broadcast channel can be read by every receiver, each at its own pace.
A receiver is no more than a position in what has been sent. The channel keeps the last `capacity`
items for those who are behind; a receiver that has fallen further back is told how many items it
has missed, once, and goes on with the oldest one kept.

The whole history stays in the value: what has been overwritten is a matter of positions only, so no
operation depends on how a ring of slots is laid out.
-/

namespace SensorLink

/-- A broadcast channel. -/
structure Broadcast (α : Type) where
  /-- How many items are kept for receivers that are behind. -/
  capacity : Nat
  /-- Everything that was ever sent, the oldest first. -/
  sent : Array α := #[]
  /-- Whether nothing more can be sent. -/
  closed : Bool := false
  deriving Repr

/-- What a receiver finds. -/
inductive Received (α : Type) where
  /-- There is nothing new yet. -/
  | empty
  /-- There is nothing new, and there never will be. -/
  | closed
  /-- So many items have been overwritten unread. -/
  | lagged (missed : Nat)
  | item (value : α)
  deriving DecidableEq, Repr

namespace Broadcast

variable {α : Type}

/-- A channel that keeps at least so many items: their number is rounded up to a power of two. -/
def withCapacity (capacity : Nat) : Broadcast α := { capacity := capacity.nextPowerOfTwo }

/-- Sends an item; on a closed channel it is lost. -/
def send (channel : Broadcast α) (value : α) : Broadcast α :=
  if channel.closed then channel else { channel with sent := channel.sent.push value }

/-- Ends the channel. -/
def close (channel : Broadcast α) : Broadcast α := { channel with closed := true }

/-- The position of a receiver that begins now: it sees what is sent from here on. -/
def tail (channel : Broadcast α) : Nat := channel.sent.size

/-- The position of the oldest item that is kept. -/
def oldest (channel : Broadcast α) : Nat := channel.sent.size - channel.capacity

/-- What a receiver at a position finds, and its position after that. -/
def receive (channel : Broadcast α) (position : Nat) : Received α × Nat :=
  if position < channel.oldest then (.lagged (channel.oldest - position), channel.oldest)
  else
    match channel.sent[position]? with
    | some value => (.item value, position + 1)
    | none => (if channel.closed then .closed else .empty, position)

/-- The items behind a position. -/
def unread (channel : Broadcast α) (position : Nat) : List α :=
  (channel.sent.extract position channel.sent.size).toList

theorem unread_eq_drop (channel : Broadcast α) (position : Nat) :
    channel.unread position = channel.sent.toList.drop position := by
  simp [unread, List.take_of_length_le]

/-- Sending changes nothing of what a receiver has yet to read but for the item at its end. -/
theorem unread_send {channel : Broadcast α} (hopen : channel.closed = false) (value : α)
    {position : Nat} (h : position ≤ channel.tail) :
    (channel.send value).unread position = channel.unread position ++ [value] := by
  have h : position ≤ channel.sent.toList.length := by simpa [tail] using h
  simp [unread_eq_drop, send, hopen, List.drop_append_of_le_length h]

theorem receive_lagged {channel : Broadcast α} {position missed after : Nat}
    (h : channel.receive position = (.lagged missed, after)) :
    0 < missed ∧ after = position + missed ∧ after = channel.oldest := by
  unfold receive at h
  split at h
  · simp only [Prod.mk.injEq, Received.lagged.injEq] at h
    omega
  · split at h
    · simp at h
    · split at h <;> simp at h

theorem receive_item {channel : Broadcast α} {position after : Nat} {value : α}
    (h : channel.receive position = (.item value, after)) :
    channel.oldest ≤ position ∧ after = position + 1
      ∧ channel.unread position = value :: channel.unread after := by
  unfold receive at h
  split at h
  · simp at h
  · rename_i hlag
    split at h
    · rename_i found hfound
      simp only [Prod.mk.injEq, Received.item.injEq] at h
      obtain ⟨rfl, rfl⟩ := h
      refine ⟨by omega, rfl, ?_⟩
      obtain ⟨hlt, hget⟩ := Array.getElem?_eq_some_iff.mp hfound
      simp only [unread_eq_drop]
      rw [List.drop_eq_getElem_cons (by simpa using hlt)]
      simp [hget]
    · split at h <;> simp at h

end Broadcast
end SensorLink
