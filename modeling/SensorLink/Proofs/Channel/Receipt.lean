import Mathlib.Data.List.Forall2
import SensorLink.Channel.Broadcast

/-!
# What a receiver accounts for

A receiver of a broadcast channel is a position, and it can only go forward. What it finds accounts
for the items that it goes past: an item for itself, and a lag for as many as were overwritten
(`Receipt`). So

> **what lay behind a receiver is what it accounts for, and then what lies behind it now**
> (`receipt_receive`),

and since a channel only ever adds to what was sent (`Extends`), this is true of any number of
receipts, however much is sent between them.
-/

namespace SensorLink
namespace Broadcast

variable {α : Type}

/-! ## What was sent stays -/

structure Extends (before after : Broadcast α) : Prop where
  capacity : after.capacity = before.capacity
  closed : after.closed = before.closed
  sent : before.sent.toList <+: after.sent.toList

theorem Extends.refl (channel : Broadcast α) : Extends channel channel :=
  ⟨rfl, rfl, List.prefix_rfl⟩

theorem Extends.trans {a b c : Broadcast α} (h : Extends a b) (h' : Extends b c) : Extends a c :=
  ⟨h'.capacity.trans h.capacity, h'.closed.trans h.closed, h.sent.trans h'.sent⟩

theorem extends_send (channel : Broadcast α) (value : α) :
    Extends channel (channel.send value) := by
  unfold send
  split
  · exact .refl channel
  · exact ⟨rfl, rfl, by simp⟩

/-- What was sent is never fewer than before. -/
theorem Extends.tail_le {before after : Broadcast α} (h : Extends before after) :
    before.tail ≤ after.tail := by
  have := h.sent.length_le
  simpa [tail] using this

/-- A position means the same packet for ever, which is what makes it worth keeping. -/
theorem Extends.getElem? {before after : Broadcast α} (h : Extends before after) {position : Nat}
    {value : α} (hget : before.sent[position]? = some value) :
    after.sent[position]? = some value := by
  obtain ⟨more, hmore⟩ := h.sent
  rw [← Array.getElem?_toList] at hget ⊢
  rw [← hmore]
  exact List.getElem?_append_left (List.getElem?_eq_some_iff.mp hget).1 ▸ hget

/-- To move on by so many is to leave so many behind. -/
theorem unread_add (channel : Broadcast α) (position n : Nat) :
    channel.unread (position + n) = (channel.unread position).drop n := by
  rw [unread_eq_drop, unread_eq_drop, List.drop_drop]

/-- Who begins to listen has nothing to look at yet. -/
@[simp] theorem unread_tail (channel : Broadcast α) : channel.unread channel.tail = [] := by
  rw [unread_eq_drop]
  exact List.drop_length

/-- What is sent comes behind everything that a receiver has yet to read. -/
theorem unread_of_sent {before after : Broadcast α} {more : List α}
    (hsent : after.sent.toList = before.sent.toList ++ more) {position : Nat}
    (h : position ≤ before.tail) : after.unread position = before.unread position ++ more := by
  have h : position ≤ before.sent.toList.length := by simpa [tail] using h
  rw [unread_eq_drop, unread_eq_drop, hsent, List.drop_append_of_le_length h]

theorem tail_le_of_sent {before after : Broadcast α} {more : List α}
    (hsent : after.sent.toList = before.sent.toList ++ more) : before.tail ≤ after.tail := by
  have hlength := congrArg List.length hsent
  simp only [Array.length_toList, List.length_append] at hlength
  simp only [tail]
  omega

/-- Nothing is lost at the sending end of a channel that is open: what is overwritten is lost for
the slow alone. -/
theorem sent_foldl_send {channel : Broadcast α} (hopen : channel.closed = false)
    (values : List α) : (values.foldl send channel).sent.toList = channel.sent.toList ++ values ∧
      (values.foldl send channel).closed = false := by
  induction values generalizing channel with
  | nil => exact ⟨(List.append_nil _).symm, hopen⟩
  | cons value values ih =>
    have hstill : (channel.send value).closed = false := by simp [send, hopen]
    obtain ⟨hsent, hclosed⟩ := ih hstill
    refine ⟨?_, hclosed⟩
    rw [List.foldl_cons, hsent]
    simp [send, hopen]

/-! ## Receipts -/

/-- The items that a receiver accounts for by what it finds. -/
inductive Receipt : Received α → List α → Prop where
  | empty : Receipt .empty []
  | closed : Receipt .closed []
  | item (value : α) : Receipt (.item value) [value]
  | lagged (missed : List α) (h : missed ≠ []) : Receipt (.lagged missed.length) missed

theorem oldest_le_tail (channel : Broadcast α) : channel.oldest ≤ channel.tail :=
  Nat.sub_le _ _

/-- **What lay behind a receiver is what it accounts for, and then what lies behind it now.** -/
theorem receipt_receive {channel : Broadcast α} {position : Nat} (h : position ≤ channel.tail) :
    ∃ items, Receipt (channel.receive position).1 items ∧
      channel.unread position = items ++ channel.unread (channel.receive position).2 ∧
      (channel.receive position).2 ≤ channel.tail := by
  rcases hfound : channel.receive position with ⟨found, after⟩
  cases found with
  | lagged missed =>
    obtain ⟨hpos, rfl, holdest⟩ := receive_lagged hfound
    -- What was overwritten is the front of what lay unread, as long as the gap.
    have hle := channel.oldest_le_tail
    have hlength : ((channel.unread position).take missed).length = missed := by
      rw [List.length_take, unread_eq_drop, List.length_drop]
      simp only [tail, Array.length_toList] at hle ⊢
      omega
    refine ⟨(channel.unread position).take missed, ?_, ?_, holdest ▸ hle⟩
    · have hreceipt : Receipt (.lagged ((channel.unread position).take missed).length) _ :=
        .lagged _ fun hnil => by
          rw [hnil] at hlength
          exact Nat.ne_of_gt hpos hlength.symm
      rwa [hlength] at hreceipt
    · rw [unread_add, List.take_append_drop]
  | item value =>
    obtain ⟨-, rfl, hunread⟩ := receive_item hfound
    refine ⟨[value], .item value, hunread, ?_⟩
    have hsome : (channel.unread position).length ≠ 0 := by
      rw [hunread]
      simp
    rw [unread_eq_drop, List.length_drop, Array.length_toList] at hsome
    simp only [tail]
    omega
  | empty | closed =>
    -- With nothing there the position stays, open channel or not.
    have hafter : after = position := by
      unfold receive at hfound
      split at hfound
      · cases hfound
      · split at hfound
        · cases hfound
        · exact (congrArg Prod.snd hfound).symm
    subst hafter
    exact ⟨[], by constructor, rfl, h⟩

end Broadcast
end SensorLink
