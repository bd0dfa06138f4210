import SensorLink.Proofs.Channel.Receipt
import SensorLink.Proofs.Dialogue.Course

/-!
# Replies come from the subscription

A dialogue keeps no packets. It keeps a position in what the link has delivered, and a reply is
whatever stands at that position. So to say that a reply came from the subscription is to say
something about positions, and positions mean something because nothing that can happen to a link
takes back what was delivered:

> **a link only ever adds to what it has delivered** (`extends_undergo`, `extends_write`), and so
> **every reply of a course is at its position to the end, behind the position at which the dialogue
> last began to listen, and no packet is taken twice** (`heard_follow`).

The second half rests on one number, the position of the next packet to be looked at. It never
falls, and each act of a course stands in front of it.
-/

namespace SensorLink

/-! ## What has been delivered stays -/

namespace Link

open Observers (nobody)

/-- What a link has delivered so far, it has still delivered later. -/
def Extends (before after : Link) : Prop := before.inbox.packets.Extends after.inbox.packets

theorem Extends.refl (link : Link) : Extends link link := Broadcast.Extends.refl _

theorem Extends.trans {a b c : Link} (h : Extends a b) (h' : Extends b c) : Extends a c :=
  Broadcast.Extends.trans h h'

theorem Extends.of_eq {before after : Link} (h : after.inbox.packets = before.inbox.packets) :
    Extends before after := by
  unfold Extends
  rw [h]
  exact .refl _

theorem extends_foldl {ι : Type} {f : Link → ι → Link} (h : ∀ link x, Extends link (f link x))
    (xs : List ι) (link : Link) : Extends link (xs.foldl f link) := by
  induction xs generalizing link with
  | nil => exact .refl link
  | cons x xs ih => exact (h link x).trans (ih (f link x))

theorem packets_enter (state : LinkState) (link : Link) :
    (enter nobody state link).inbox.packets = link.inbox.packets := by
  unfold enter
  split <;> rfl

theorem packets_breakDown (cause : LinkLoss) (link : Link) :
    (breakDown nobody cause link).inbox.packets = link.inbox.packets := by
  unfold breakDown
  split <;> rfl

/-- A loss leaves the packets that were delivered before it. -/
theorem packets_lose (cause : LinkLoss) (link : Link) :
    (lose nobody cause link).inbox.packets = link.inbox.packets := by
  unfold lose
  split
  · exact packets_breakDown cause link
  · split
    · exact packets_breakDown cause _
    · rfl

theorem packets_endReader (connection : Nat) (cause : LinkLoss) (link : Link) :
    (endReader nobody connection cause link).inbox.packets = link.inbox.packets := by
  unfold endReader
  split
  · exact packets_lose cause link
  · rfl

theorem packets_send (bytes : Bytes) (failure : Option String) (link : Link) :
    (send nobody bytes failure link).2.inbox.packets = link.inbox.packets := by
  unfold send
  split
  · rfl
  · split
    · rfl
    · split
      · exact packets_lose _ link
      · rfl

theorem packets_hangUp (link : Link) :
    (hangUp nobody link).inbox.packets = link.inbox.packets := by
  unfold hangUp
  simp only
  split
  · exact packets_endReader _ _ _
  · rfl

/-- Only a packet adds to what is delivered, and it does so at the end. -/
theorem extends_dispatch (link : Link) (event : FramerEvent) :
    Extends link (dispatch nobody link event) := by
  cases event with
  | packet p raw => exact Broadcast.extends_send _ p
  | discarded cause dropped => exact .refl _

theorem extends_readPiece (connection : Nat) (link : Link) (piece : Bytes) :
    Extends link (readPiece nobody connection piece link) := by
  unfold readPiece
  split
  · exact .refl link
  · rename_i reader _
    simp only
    -- Neither the count nor the framer that is kept has anything to do with the packets.
    generalize hcounted : link.count _ = counted
    have hlink : Extends link counted := .of_eq (hcounted ▸ rfl)
    have hread := extends_foldl extends_dispatch (reader.framer.push piece).drain.1 counted
    exact (hlink.trans hread).trans (.of_eq rfl)

/-- This holds of what the router sends whether or not anybody reads it. -/
theorem extends_inject (bytes : Bytes) (link : Link) :
    Extends link (inject nobody bytes link).2 := by
  unfold inject receive
  split
  · simp only
    split
    · exact .of_eq (packets_endReader _ _ _)
    · exact extends_foldl (extends_readPiece _) _ _
  · exact .refl link

end Link

namespace World

theorem extends_deliver (world : World) (delivery : Delivery) (times : Nat) :
    world.link.Extends (world.deliver delivery times).link := by
  unfold deliver
  split
  · exact .refl _
  · rename_i bytes _
    simp only
    induction times with
    | zero => exact .refl _
    | succ times ih =>
      rw [Nat.fold_succ]
      exact ih.trans (Link.extends_inject bytes _)

theorem extends_deliverAll (deliveries : List (Delivery × Nat)) (world : World) :
    world.link.Extends (deliveries.foldl
      (fun world (delivery, times) => world.deliver delivery times) world).link := by
  induction deliveries generalizing world with
  | nil => exact .refl _
  | cons first rest ih => exact (world.extends_deliver first.1 first.2).trans (ih _)

theorem extends_play (world : World) (batch : Batch) :
    world.link.Extends (world.play batch).link := by
  cases batch with
  | refuse reason => exact .refl _
  | send deliveries hangUp =>
    unfold play
    simp only
    split
    · exact (extends_deliverAll deliveries world).trans (.of_eq (Link.packets_hangUp _))
    · exact extends_deliverAll deliveries world

theorem link_nextReply (world : World) : world.nextReply.2.link = world.link := by
  unfold nextReply
  split <;> rfl

/-- **Writing only adds to what was delivered**, since the router may answer before the write is
over. -/
theorem extends_write (world : World) (bytes : Bytes) :
    world.link.Extends (world.write bytes).2.link := by
  have hsend (failure : Option String) (link : Link) :
      link.Extends (link.send Observers.nobody bytes failure).2 :=
    .of_eq (Link.packets_send bytes failure link)
  unfold write
  split
  · exact hsend none world.link
  · have hlink := world.link_nextReply
    split
    · rename_i reason after heq
      rw [heq] at hlink
      rw [← hlink]
      exact hsend (some reason) after.link
    · rename_i batch after _ heq
      rw [heq] at hlink
      rw [← hlink]
      have hwritten := hsend none after.link
      revert hwritten
      rcases after.link.send Observers.nobody bytes none with ⟨taken, link⟩
      intro hwritten
      -- The router's answer comes behind the write itself.
      cases batch with
      | none => exact hwritten
      | some batch =>
        simp only [Option.elim_some]
        refine Link.Extends.trans hwritten ?_
        exact extends_play { after with link := { link with router := link.router.takeWrite.2 }
                                        written := after.written.push bytes
                                        lastRequest := requestIn bytes <|> after.lastRequest } batch

/-- **Whatever happens meanwhile only adds to what was delivered.** -/
theorem extends_undergo (world : World) (what : Happening) :
    world.link.Extends (world.undergo what).link := by
  cases what with
  | arrives packet => exact Link.extends_dispatch world.link _
  | passes milliseconds => exact .refl _
  | enters state => exact .of_eq (Link.packets_enter state _)

end World

/-! ## Positions -/

namespace Act

/-- The act stands in front of a position. -/
def Before (next : Nat) : Act → Prop
  | .listened position => position ≤ next
  | .took position _ => position < next
  | .wrote _ => True

/-- The positions of an act and a later one are in order. -/
def InOrder : Act → Act → Prop
  | .listened position, .took later _ => position ≤ later
  | .took position _, .took later _ => position < later
  | .took position _, .listened later => position < later
  | _, _ => True

/-- A reply is still at its position. -/
def FoundIn (packets : Broadcast Packet) : Act → Prop
  | .took position packet => packets.sent[position]? = some packet
  | _ => True

theorem Before.mono {next next' : Nat} (h : next ≤ next') {act : Act} (hbefore : act.Before next) :
    act.Before next' := by
  cases act with
  | listened position => exact Nat.le_trans hbefore h
  | took position packet => exact Nat.lt_of_lt_of_le hbefore h
  | wrote bytes => trivial

theorem FoundIn.mono {packets packets' : Broadcast Packet} (h : packets.Extends packets')
    {act : Act} (hfound : act.FoundIn packets) : act.FoundIn packets' := by
  cases act with
  | took position packet => exact h.getElem? hfound
  | listened position => trivial
  | wrote bytes => trivial

theorem inOrder_listened {act : Act} {next later : Nat} (hbefore : act.Before next)
    (h : next ≤ later) : act.InOrder (.listened later) := by
  cases act with
  | took position packet => exact Nat.lt_of_lt_of_le hbefore h
  | listened position => trivial
  | wrote bytes => trivial

theorem inOrder_took {act : Act} {next later : Nat} {packet : Packet} (hbefore : act.Before next)
    (h : next ≤ later) : act.InOrder (.took later packet) := by
  cases act with
  | listened position => exact Nat.le_trans hbefore h
  | took position _ => exact Nat.lt_of_lt_of_le hbefore h
  | wrote bytes => trivial

end Act

namespace ReplyStream

/-- A look never goes back, and never beyond what has been delivered. -/
theorem next_poll (awaited : Awaited) {inbox : Inbox} {stream : ReplyStream}
    (h : stream.next ≤ inbox.packets.tail) :
    stream.next ≤ (poll awaited inbox stream).2.next ∧
      (poll awaited inbox stream).2.next ≤ inbox.packets.tail := by
  have hlook := look awaited inbox stream
  have hunread : (inbox.packets.unread stream.next).length = inbox.packets.tail - stream.next := by
    rw [Broadcast.unread_eq_drop, List.length_drop]
    rfl
  generalize poll awaited inbox stream = x at hlook ⊢
  cases hlook with
  | lagged hlag => exact ⟨Nat.le_of_lt hlag, Nat.sub_le _ _⟩
  | judged _ hsplit _ _ =>
    rw [hsplit, List.length_append, List.length_cons] at hunread
    simp only
    omega
  | ended _ _ _ =>
    simp only
    omega
  | passed _ _ _ =>
    rw [pollState_next]
    simp only
    omega

/-- A reply is the packet in front of the position that a look has come to. -/
theorem found_of_poll {awaited : Awaited} {inbox : Inbox} {stream after : ReplyStream}
    {reply : awaited.Reply} (h : poll awaited inbox stream = (some (.ok reply), after)) :
    stream.next < after.next ∧
      inbox.packets.sent[after.next - 1]? = some (awaited.packet reply) := by
  obtain ⟨before, rest, hunread, -, -, hafter⟩ := reply_of_poll h
  have hget : (inbox.packets.unread stream.next)[before.length]? = some (awaited.packet reply) := by
    rw [hunread]
    simp
  rw [Broadcast.unread_eq_drop, List.getElem?_drop, Array.getElem?_toList] at hget
  rw [hafter]
  exact ⟨by omega, hget⟩

end ReplyStream

/-- What is true of the positions in a course at every moment. -/
structure Course.Heard {α : Type} (course : Course α) : Prop where
  inOrder : course.acts.Pairwise Act.InOrder
  before : ∀ act ∈ course.acts, act.Before course.task.stream.next
  found : ∀ act ∈ course.acts, act.FoundIn course.world.link.inbox.packets
  next_le : course.task.stream.next ≤ course.world.link.inbox.packets.tail

namespace Course

variable {α : Type}

theorem heard_start (dialogue : Dialogue α) (world : World) : (start dialogue world).Heard :=
  ⟨.nil, nofun, nofun, Nat.zero_le _⟩

/-- Nothing is done, the world goes on, and the position does not fall. -/
theorem Heard.goOn {course course' : Course α} (h : course.Heard)
    (hacts : course'.acts = course.acts)
    (hnext : course.task.stream.next ≤ course'.task.stream.next)
    (hworld : course.world.link.Extends course'.world.link)
    (hle : course'.task.stream.next ≤ course'.world.link.inbox.packets.tail) : course'.Heard := by
  refine ⟨hacts ▸ h.inOrder, fun act hact => ?_, fun act hact => ?_, hle⟩
  · exact (h.before act (hacts ▸ hact)).mono hnext
  · exact (h.found act (hacts ▸ hact)).mono hworld

theorem Heard.act {course course' : Course α} {act : Act} (h : course.Heard)
    (hacts : course'.acts = course.acts ++ [act])
    (hnext : course.task.stream.next ≤ course'.task.stream.next)
    (hworld : course.world.link.Extends course'.world.link)
    (hle : course'.task.stream.next ≤ course'.world.link.inbox.packets.tail)
    (horder : ∀ earlier : Act, earlier.Before course.task.stream.next → earlier.InOrder act)
    (hbefore : act.Before course'.task.stream.next)
    (hfound : act.FoundIn course'.world.link.inbox.packets) : course'.Heard := by
  refine ⟨?_, ?_, ?_, hle⟩
  · rw [hacts]
    refine List.pairwise_append.mpr ⟨h.inOrder, List.pairwise_singleton _ _, ?_⟩
    intro earlier hearlier later hlater
    rw [List.mem_singleton.mp hlater]
    exact horder earlier (h.before earlier hearlier)
  · intro a ha
    rw [hacts] at ha
    rcases List.mem_append.mp ha with ha | ha
    · exact (h.before a ha).mono hnext
    · rw [List.mem_singleton.mp ha]
      exact hbefore
  · intro a ha
    rw [hacts] at ha
    rcases List.mem_append.mp ha with ha | ha
    · exact (h.found a ha).mono hworld
    · rw [List.mem_singleton.mp ha]
      exact hfound

theorem heard_transmitted {dialogue next : Dialogue α} {stream : ReplyStream}
    {deadline : Option Nat} {world : World} {done : List Act} (bytes : Bytes)
    (h : Heard ⟨⟨dialogue, stream, deadline⟩, world, done⟩) :
    (transmitted stream world done bytes next).Heard := by
  have hworld := world.extends_write bytes
  unfold transmitted
  split
  · rename_i after heq
    rw [heq] at hworld
    refine h.act rfl (Nat.le_refl _) hworld (Nat.le_trans h.next_le hworld.tail_le) ?_ trivial
      trivial
    intro earlier _
    cases earlier <;> trivial
  · rename_i after heq
    rw [heq] at hworld
    exact h.goOn rfl (Nat.le_refl _) hworld (Nat.le_trans h.next_le hworld.tail_le)

/-- **What is true of the positions is true after one more step**: to listen starts at the end of
what was delivered, and a wait takes what it has just looked at. -/
theorem heard_step {course : Course α} (h : course.Heard) : course.step.Heard := by
  obtain ⟨⟨dialogue, stream, deadline⟩, world, done⟩ := course
  have hle : stream.next ≤ world.link.inbox.packets.tail := h.next_le
  have hsame : world.link.Extends world.link := .refl _
  cases dialogue with
  | done result => exact h
  | subscribe next =>
    rw [step_subscribe]
    split
    · refine h.act rfl hle hsame (Nat.le_refl _) ?_ (Nat.le_refl _) trivial
      intro earlier hbefore
      exact Act.inOrder_listened hbefore hle
    · exact h.goOn rfl (Nat.le_refl _) hsame hle
  | send request next =>
    rw [step_send]
    split
    · exact h.goOn rfl (Nat.le_refl _) hsame hle
    · exact heard_transmitted _ h
  | stream bytes next =>
    rw [step_stream]
    exact heard_transmitted bytes h
  | await awaited timeout next =>
    rw [step_await]
    have hpoll := ReplyStream.next_poll awaited hle
    split
    · rename_i reply after heq
      rw [heq] at hpoll
      -- The reply stands right in front of the new position, so behind the old one.
      obtain ⟨hlt, hfound⟩ := ReplyStream.found_of_poll heq
      refine h.act rfl hpoll.1 hsame hpoll.2 ?_ (Nat.sub_lt (Nat.zero_lt_of_lt hlt) Nat.one_pos)
        hfound
      intro earlier hbefore
      exact Act.inOrder_took hbefore (Nat.le_sub_one_of_lt hlt)
    · rename_i e after heq
      rw [heq] at hpoll
      exact h.goOn rfl hpoll.1 hsame hpoll.2
    · rename_i after heq
      rw [heq] at hpoll
      unfold waited
      split
      · exact h.goOn rfl hpoll.1 hsame hpoll.2
      · split
        · exact h.goOn rfl hpoll.1 hsame hpoll.2
        · exact h.goOn rfl hpoll.1 hsame hpoll.2
  | pause length next =>
    rw [step_pause]
    split
    · exact h.goOn rfl (Nat.le_refl _) hsame hle
    · split
      · exact h.goOn rfl (Nat.le_refl _) hsame hle
      · exact h.goOn rfl (Nat.le_refl _) hsame hle

/-- No packet is taken twice. -/
theorem Heard.once {course : Course α} (h : course.Heard) :
    (course.replies.map Prod.fst).Pairwise (· < ·) := by
  refine List.pairwise_map.mpr (List.pairwise_filterMap.mpr (h.inOrder.imp ?_))
  intro act later horder reply hreply reply' hreply'
  cases act <;> cases hreply
  cases later <;> cases hreply'
  exact horder

/-- **Every reply of a course came from its subscription**, under every schedule. -/
theorem heard_follow (schedule : List Move) {course : Course α} (h : course.Heard) :
    (course.follow schedule).Heard := by
  induction schedule generalizing course with
  | nil => exact h
  | cons move schedule ih =>
    refine ih ?_
    cases move with
    | step => exact heard_step h
    | meanwhile what =>
      have hworld := course.world.extends_undergo what
      exact h.goOn rfl (Nat.le_refl _) hworld (Nat.le_trans h.next_le hworld.tail_le)

end Course
end SensorLink
