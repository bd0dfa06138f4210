import SensorLink.Proofs.Link.Books

/-!
# What is delivered

Whoever listens to a link, as an observer or as a subscriber, gets what the framers of its
connections have found and nothing else. For an observer,

> **the packets that an observer is told on a connection are those that a fresh framer finds in what
> was read on that connection** (`delivery`),

so a frame that was left unfinished on one connection never meets the bytes of the next; every
packet comes with its frame, which is its own encoding. What was read is what was sent, from the
first byte up to where reading stopped, and when a connection ends because the router has hung up,
reading has not stopped short (`ended`).

A subscriber is further away, since the channel overwrites what it has not fetched in time. Its
receipts account for everything all the same (`Subscribes`):

> **what the framers have found since a subscription was taken is what the subscription accounts
> for, and then what it has yet to fetch**.

No observer has a part in that. A line that nobody observes publishes what its framers find
(`Delivery.published`), and where there are observers, they are told the same.
-/

namespace SensorLink

namespace Line

variable {observers : Observers}

/-! ## Observers -/

/-- What the observers of a line have been told of what has arrived, and what is published of it. -/
structure Delivery (observers : Observers) (line : Line) : Prop where
  packets : ∀ o < observers.count, ∀ c,
    packetsOf (heard o (line.eventsOf c)) = line.packetsOn c
  /-- Packets are told while a piece is being dispatched, and at no other time. -/
  readings : ∀ o < observers.count, packetsOf (heard o line.link.events.toList) =
    line.readings.flatMap fun r => packetsOf (heard o r.events)
  read : ∀ c, line.readOn c <+: line.sentOn c
  /-- Between a frame and its packet an observer hears only of what its own calls have set off. -/
  framed : ∀ o < observers.count, ∀ before p after,
    heard o line.link.events.toList = before ++ .packet p :: after →
      ∃ front raw between, before = front ++ .frame raw :: between ∧ p.encode = .ok raw ∧
        (∀ n ∈ between, n.isChange = true) ∧ (observers.QuietAtFrames o → between = [])
  /-- Subscribers are sent what the framers find, whether or not there is anybody to be told. -/
  published : line.link.inbox.packets.sent.toList = line.packetsFound
  /-- If there is, it is told the same. -/
  told : ∀ o < observers.count, packetsOf (heard o line.link.events.toList) = line.packetsFound

/-- All of it is read off the books of the line. -/
theorem Balanced.toDelivery {line : Line} (h : line.Balanced observers) :
    line.Delivery observers where
  packets := fun o ho c => by rw [(h.reports o ho c).packets_eq, packetsOn_eq]
  readings := h.readings
  read := fun c => ⟨(line.intake c).unread, (h.intake c).symm⟩
  framed := by
    obtain ⟨found, hreports, hencode, -⟩ := h.chronicle.found
    intro o ho before p after hsplit
    obtain ⟨front, raw, between, hbefore, hp, hbetween⟩ := (hreports o ho).frame hsplit
    exact ⟨front, raw, between, hbefore, hencode p raw hp, hbetween⟩
  published := h.published
  told := by
    obtain ⟨found, hreports, -, hsent⟩ := h.chronicle.found
    intro o ho
    rw [(hreports o ho).packets_eq, ← hsent, h.published]

/-! ## The end of a connection -/

/-- No chunk that waits in an intake is empty. -/
def Filled (line : Line) : Prop := ∀ c, [] ∉ (line.intake c).chunks

theorem Filled.setIntake {line : Line} (h : line.Filled) {c : Nat} {rest : Intake}
    (hrest : rest.chunks ⊆ (line.intake c).chunks) : (line.setIntake c rest).Filled := by
  intro d hd
  unfold Line.setIntake at hd
  simp only at hd
  split at hd
  · exact h c (hrest hd)
  · exact h d hd

/-- Chunks come in by `inject` alone, and reading takes from what there is. -/
theorem Filled.advance {line after : Line} {move : Move} (h : line.Filled)
    (hstep : Advance observers line move after) (hmove : move ≠ .inject []) : after.Filled := by
  cases hstep with
  | undergoes => exact h
  | arrives bytes =>
    intro d hd
    unfold arrived at hd
    simp only at hd
    split at hd
    · rcases List.mem_append.mp hd with hd | hd
      · exact h _ hd
      · exact hmove (by rw [List.mem_singleton.mp hd])
    · exact h d hd
  | ends hread =>
    refine h.setIntake ?_
    rcases hread with hread | ⟨-, -, hrest⟩
    · exact (Intake.unread_of_read_some hread).2
    · rw [hrest]
      exact List.Subset.refl _
  | dispatches _ hread => exact h.setIntake (Intake.unread_of_read_some hread).2

/-- What a step that loses the link has to do with what was sent: either something has failed, or
the router has hung up and every byte that it had sent has been read. -/
def EndsRead (tell : Tell) (line : Line) : Prop :=
  ∀ move o cause, .told o (.error (.linkLost cause)) ∈
      (line.step tell move).link.events.toList.drop line.link.events.size →
    move.Faults cause ∨ cause = .endOfStream ∧ line.link.router.canSend = false ∧
      line.readOn line.connection = line.sentOn line.connection

/-- **A connection that nothing else has ended is read to its end.** -/
theorem Balanced.endsRead (hdiscreet : observers.Discreet) (depth : Nat) {line : Line}
    (h : line.Balanced observers) (hfilled : line.Filled) :
    line.EndsRead (observers.tell depth) := by
  intro move o cause htold
  have hnew {causes : LinkLoss → Prop} {found : Nat → List FramerEvent} {sent : List Packet}
      {events : List LinkEvent} {link : Link}
      (hlink : Link.Episode observers causes found sent line.link events link)
      (hmem : .told o (.error (.linkLost cause)) ∈
        link.events.toList.drop line.link.events.size) : causes cause := by
    rw [hlink.events_eq, ← Array.length_toList, List.drop_left] at hmem
    exact hlink.lawful _ hmem
  have hstep := advance_step hdiscreet depth h.chronicle.settled move
  generalize line.step (observers.tell depth) move = after at hstep htold
  cases hstep with
  | undergoes _ hcauses hlink => exact .inl (hcauses _ (hnew hlink htold))
  | arrives bytes =>
    have hsame : line.link.events.toList.drop line.link.events.size = [] := List.drop_length
    rw [show (line.arrived bytes).link = line.link from rfl, hsame] at htold
    cases htold
  | dispatches _ _ hmiddle => exact .inl (.inl (hnew hmiddle htold))
  | ends hread hlink =>
    refine .inr ⟨hnew hlink htold, ?_⟩
    -- An empty piece would be one way to find the end, but there are no empty chunks.
    rcases hread with hread | ⟨hunread, hhungUp, -⟩
    · exact absurd rfl (Intake.ne_nil_of_read_some (by decide) (hfilled _) hread)
    · refine ⟨hhungUp, ?_⟩
      rw [h.intake, hunread, List.append_nil]

/-- Without an empty chunk to begin with, an empty piece is never read. -/
theorem filled_run (hdiscreet : observers.Discreet) (depth : Nat) {line : Line}
    (h : line.Balanced observers) (hfilled : line.Filled) {moves : List Move}
    (hmoves : .inject [] ∉ moves) : (line.run (observers.tell depth) moves).Filled := by
  induction moves generalizing line with
  | nil => exact hfilled
  | cons move moves ih =>
    rw [List.mem_cons, not_or] at hmoves
    have hstep := advance_step hdiscreet depth h.chronicle.settled move
    exact ih (h.advance hstep) (hfilled.advance hstep (Ne.symm hmoves.1)) hmoves.2

/-- A step only ever adds to what the subscribers have been sent. -/
theorem Advance.sent {line after : Line} {move : Move} (hstep : Advance observers line move after)
    (hopen : line.link.inbox.packets.closed = false) :
    ∃ more, after.link.inbox.packets.sent.toList = line.link.inbox.packets.sent.toList ++ more := by
  have hsent {causes : LinkLoss → Prop} {found : Nat → List FramerEvent} {sent : List Packet}
      {events : List LinkEvent} {link : Link}
      (hlink : Link.Episode observers causes found sent line.link events link) :
      ∃ more, link.inbox.packets.sent.toList = line.link.inbox.packets.sent.toList ++ more := by
    rw [hlink.packets]
    exact ⟨sent, (Broadcast.sent_foldl_send hopen sent).1⟩
  cases hstep with
  | undergoes _ _ hlink => exact hsent hlink
  | arrives bytes => exact ⟨[], (List.append_nil _).symm⟩
  | ends _ hlink => exact hsent hlink
  | dispatches _ _ hmiddle =>
    obtain ⟨more, hmore⟩ := hsent hmiddle
    exact ⟨more, hmore⟩

end Line

/-! ## Subscribers -/

/-- A subscription to the packets of a line: its position in them, and what it has received. -/
structure Listener where
  line : Line
  position : Nat
  received : List (Received Packet) := []

namespace Listener

open Broadcast (Receipt)

/-- Something is done to the line, or the subscriber looks for the next packet. -/
inductive Move where
  | line (move : Line.Move)
  | receive

def step (tell : Tell) (listener : Listener) : Move → Listener
  | .line move => { listener with line := listener.line.step tell move }
  | .receive =>
    let (found, position) := listener.line.link.inbox.packets.receive listener.position
    { listener with position, received := listener.received ++ [found] }

def run (tell : Tell) (moves : List Move) (listener : Listener) : Listener :=
  moves.foldl (step tell) listener

/-- A subscription that is taken now. -/
def subscribe (line : Line) : Listener := { line, position := line.link.inbox.packets.tail }

/-- What was sent after some packets is what the subscriber has accounted for, and then what it has
yet to fetch. -/
structure Accounts (before : List Packet) (listener : Listener) : Prop where
  position_le : listener.position ≤ listener.line.link.inbox.packets.tail
  items : ∃ items, List.Forall₂ Receipt listener.received items ∧
    listener.line.link.inbox.packets.sent.toList =
      before ++ (items.flatten ++ listener.line.link.inbox.packets.unread listener.position)

theorem accounts_subscribe (line : Line) :
    Accounts line.link.inbox.packets.sent.toList (subscribe line) where
  position_le := Nat.le_refl _
  items := ⟨[], .nil, by simp [subscribe]⟩

variable {observers : Observers}

/-- What is dispatched is behind everything, and what is received is taken from the front of what
was not fetched. -/
theorem Accounts.step (hdiscreet : observers.Discreet) (depth : Nat) {before : List Packet}
    {listener : Listener} (h : listener.Accounts before) (hline : listener.line.Balanced observers)
    (move : Move) : (listener.step (observers.tell depth) move).Accounts before := by
  obtain ⟨items, hitems, hsent⟩ := h.items
  cases move with
  | line move =>
    have hstep := Line.advance_step hdiscreet depth hline.chronicle.settled move
    obtain ⟨more, hmore⟩ := hstep.sent hline.chronicle.isOpen
    refine ⟨Nat.le_trans h.position_le (Broadcast.tail_le_of_sent hmore), items, hitems, ?_⟩
    have hunread := Broadcast.unread_of_sent hmore h.position_le
    rw [hsent, List.append_assoc, List.append_assoc, ← hunread] at hmore
    exact hmore
  | receive =>
    obtain ⟨now, hreceipt, hunread, hle⟩ := Broadcast.receipt_receive h.position_le
    refine ⟨hle, items ++ [now], List.rel_append hitems (.cons hreceipt .nil), ?_⟩
    rw [hunread] at hsent
    rw [List.flatten_append, List.flatten_singleton, List.append_assoc]
    exact hsent

theorem Accounts.run (hdiscreet : observers.Discreet) (depth : Nat) {before : List Packet}
    {listener : Listener} (h : listener.Accounts before) (hline : listener.line.Balanced observers)
    (moves : List Move) :
    (listener.run (observers.tell depth) moves).Accounts before ∧
      (listener.run (observers.tell depth) moves).line.Balanced observers := by
  induction moves generalizing listener with
  | nil => exact ⟨h, hline⟩
  | cons move moves ih =>
    refine ih (h.step hdiscreet depth hline move) ?_
    cases move with
    | line move =>
      exact hline.advance (Line.advance_step hdiscreet depth hline.chronicle.settled move)
    | receive => exact hline

end Listener

namespace Line

variable {observers : Observers}

/-- A subscription to a line, after anything that may happen: the packets that the framers have
found since it was taken are those that it accounts for, each once and in order, and then those that
it has yet to fetch. They are the packets that every observer has been told meanwhile. -/
def Subscribes (observers : Observers) (tell : Tell) (line : Line) : Prop :=
  ∀ moves, let listener := (Listener.subscribe line).run tell moves
    ∃ items, List.Forall₂ Broadcast.Receipt listener.received items ∧
      let accounted := items.flatten ++ listener.line.link.inbox.packets.unread listener.position
      listener.line.packetsFound = line.packetsFound ++ accounted ∧
      ∀ o < observers.count, packetsOf (heard o listener.line.link.events.toList) =
        packetsOf (heard o line.link.events.toList) ++ accounted

/-- A subscription accounts for what the channel was sent, and the books say what that was. -/
theorem Balanced.subscribes (hdiscreet : observers.Discreet) (depth : Nat) {line : Line}
    (h : line.Balanced observers) : line.Subscribes observers (observers.tell depth) := by
  intro moves listener
  obtain ⟨haccounts, hline⟩ := (Listener.accounts_subscribe line).run hdiscreet depth h moves
  obtain ⟨items, hitems, hsent⟩ := haccounts.items
  rw [h.published, hline.published] at hsent
  refine ⟨items, hitems, hsent, fun o ho => ?_⟩
  rw [h.toDelivery.told o ho, hline.toDelivery.told o ho]
  exact hsent

/-- **Delivery is the framing of each connection's own bytes**, whatever is done to the line and
whatever its observers call meanwhile. -/
theorem delivery (h : observers.Discreet) (depth : Nat) (moves : List Move) :
    let tell := observers.tell depth
    let line := run tell moves {}
    line.Delivery observers ∧ line.Subscribes observers tell ∧
      (.inject [] ∉ moves → line.EndsRead tell) := by
  intro tell line
  have hline : line.Balanced observers := balanced_run h depth balanced_start moves
  refine ⟨hline.toDelivery, hline.subscribes h depth, fun hmoves => ?_⟩
  have hempty : Filled {} := fun _ => List.not_mem_nil
  exact hline.endsRead h depth (filled_run h depth balanced_start hempty hmoves)

/-- The first observer closes the link on each packet and connects it again; the second listens. -/
def reopening : Observers where
  count := 2
  react := fun _ observer notice =>
    match observer, notice with
    | 0, .packet _ => [.close, .connect []]
    | _, _ => []

/-- The first connection ends with three bytes of a frame, and the four that would complete it come
on the second: they are noise there, and only the frame behind them is a packet. -/
theorem delivery_reopening :
    let frame : Bytes := [0x01, 0x03, 0x00, 0x00, 0x00, 0x00, 0x00]
    let moves : List Move :=
      [.call (.connect []), .inject (frame ++ frame.take 3), .failRead .transient, .read,
        .inject (frame.drop 3 ++ frame), .read]
    let tell := reopening.tell 1
    let line := run tell moves {}
    reopening.Discreet ∧ .inject [] ∉ moves ∧
    line.readOn 2 = frame.drop 3 ++ frame ∧
    packetsOf (heard 1 (line.eventsOf 2)) =
      [.dfuResponse { version := 0x01, unixTime := 0, result := 0x00 }] ∧
    line.Delivery reopening ∧ line.Subscribes reopening tell ∧ line.EndsRead tell := by
  intro frame moves tell line
  have h : reopening.Discreet := by
    intro history observer notice hchange
    cases notice with
    | packet p => cases hchange
    | state s | frame raw | error e => rcases observer with _ | _ <;> rfl
  have hmoves : .inject [] ∉ moves := by simp [moves, frame]
  obtain ⟨hdelivery, hsubscribes, hends⟩ := delivery h 1 moves
  exact ⟨h, hmoves, by decide +kernel, by decide +kernel, hdelivery, hsubscribes, hends hmoves⟩

end Line
end SensorLink
