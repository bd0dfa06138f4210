import SensorLink.Link.Line
import SensorLink.Proofs.Channel.Receipt
import SensorLink.Proofs.Framer.Frames
import SensorLink.Proofs.Link.Dispatch

/-!
# The books of a line

A line keeps books of what was sent, what was read and what happened while it was dispatched.
`Balanced` says how the entries fit the link and each other: the accounts and reports of all
observers, what its subscribers were sent, the framer of the reader that is left, and for every
connection what was sent on it against what was read. Nothing that is done to a line can unbalance
it:

> **one step keeps the books balanced** (`Balanced.advance`), **and so does every run**
> (`balanced_run`).

What a step can do at all is said once (`Advance`), in four cases.

Half of this is about the link alone and follows its episodes (`Chronicle.follow`). The steps that
only make calls or lose the link change nothing else (`Balanced.undergo`). The one that reads a
piece makes an entry, and there the framer of the reader has to be the one that has been fed all
pieces of its connection so far (`Balanced.dispatch`); that it is fresh for a new connection is what
keeps the connections apart.
-/

namespace SensorLink

/-! ## Intakes -/

namespace Intake

theorem unread_put (bytes : Bytes) (intake : Intake) :
    (intake.put bytes).unread = intake.unread ++ bytes := by
  simp [put, unread]

theorem unread_of_read_none {limit : Nat} {intake after : Intake}
    (h : intake.read limit = (none, after)) : intake.unread = [] := by
  unfold read at h
  split at h
  · cases h
  · rename_i hdone
    split at h
    · rename_i hchunks
      rw [unread, hchunks, List.drop_of_length_le (by omega)]
      rfl
    · cases h

/-- A piece is taken from the front, and the rest is left in order. -/
theorem unread_of_read_some {limit : Nat} {intake after : Intake} {piece : Bytes}
    (h : intake.read limit = (some piece, after)) :
    intake.unread = piece ++ after.unread ∧ after.chunks ⊆ intake.chunks := by
  have htake (bytes : Bytes) :
      bytes.take limit ++ bytes.drop (bytes.take limit).length = bytes := by
    rw [List.length_take]
    rcases Nat.le_total limit bytes.length with hle | hle
    · rw [Nat.min_eq_left hle, List.take_append_drop]
    · rw [Nat.min_eq_right hle, List.take_of_length_le hle, List.drop_length, List.append_nil]
  unfold read at h
  split at h
  · cases h
    refine ⟨?_, List.Subset.refl _⟩
    simp only [unread, ← List.drop_drop, ← List.append_assoc, htake]
  · rename_i hdone
    split at h
    · cases h
    · rename_i chunk chunks hchunks
      cases h
      rw [unread, hchunks, List.drop_of_length_le (by omega)]
      refine ⟨?_, List.subset_cons_self _ _⟩
      simp only [unread, ← List.append_assoc, htake, List.nil_append, List.flatten_cons]

/-- No piece is empty unless a chunk is. -/
theorem ne_nil_of_read_some {limit : Nat} (hlimit : 0 < limit) {intake after : Intake}
    {piece : Bytes} (hfilled : [] ∉ intake.chunks) (h : intake.read limit = (some piece, after)) :
    piece ≠ [] := by
  unfold read at h
  split at h
  · rename_i hmore
    cases h
    simp only [ne_eq, List.take_eq_nil_iff, List.drop_eq_nil_iff]
    omega
  · split at h
    · cases h
    · rename_i chunk chunks hchunks
      cases h
      rintro hempty
      rcases List.take_eq_nil_iff.mp hempty with hzero | rfl
      · omega
      · exact hfilled (by simp [hchunks])

end Intake

namespace Link

variable {observers : Observers}

/-! ## The link -/

/-- What holds of a link after any run: the accounts and reports of its observers, and what its
subscribers were sent. -/
structure Chronicle (observers : Observers) (link : Link) : Prop where
  settled : link.Settled
  account : ∀ o < observers.count, Account .disconnected (heard o link.events.toList) link.state
  lawful : ∀ event ∈ link.events.toList, event.Lawful fun _ => True
  /-- What was found was told to everyone and sent to the subscribers. -/
  found : ∃ found,
    (∀ o < observers.count,
      Reports (observers.QuietAtFrames o) found (heard o link.events.toList)) ∧
    (∀ p raw, .packet p raw ∈ found → p.encode = .ok raw) ∧
    link.inbox.packets.sent.toList = RouterEnd.packetsOf found
  isOpen : link.inbox.packets.closed = false

theorem chronicle_start : Chronicle observers {} where
  settled := .inl ⟨rfl, rfl, rfl, rfl⟩
  account := fun _ _ => .nothing
  lawful := by simp
  found := ⟨[], fun _ _ => .nothing, by simp, rfl⟩
  isOpen := rfl

/-- The chronicle goes on over an episode, as long as the packets in it are what they were framed
as. -/
theorem Chronicle.follow {causes : LinkLoss → Prop} {found : List FramerEvent}
    {events : List LinkEvent} {before after : Link} (h : Chronicle observers before)
    (hepisode : Episode observers causes (fun _ => found) (RouterEnd.packetsOf found) before events
      after)
    (hencode : ∀ p raw, .packet p raw ∈ found → p.encode = .ok raw) :
    Chronicle observers after where
  settled := hepisode.settled
  account := fun o ho => by
    rw [hepisode.events_eq, heard_append]
    exact (h.account o ho).trans (hepisode.account o ho)
  lawful := by
    rw [hepisode.events_eq]
    exact List.forall_mem_append.mpr
      ⟨h.lawful, fun event he => (hepisode.lawful event he).mono fun _ _ => trivial⟩
  found := by
    obtain ⟨before, hreports, hbefore, hsent⟩ := h.found
    refine ⟨before ++ found, fun o ho => ?_, fun p raw hp => ?_, ?_⟩
    · rw [hepisode.events_eq, heard_append]
      exact (hreports o ho).trans (hepisode.reports o ho)
    · exact (List.mem_append.mp hp).elim (hbefore p raw) (hencode p raw)
    · rw [hepisode.packets, (Broadcast.sent_foldl_send h.isOpen _).1, hsent]
      exact (RouterEnd.packetsOf_append ..).symm
  isOpen := by
    rw [hepisode.packets]
    exact (Broadcast.sent_foldl_send h.isOpen _).2

theorem Chronicle.keepFramer {link : Link} (h : Chronicle observers link) (connection : Nat)
    (framer : Framer) : Chronicle observers (link.keepFramer connection framer) where
  settled := h.settled.keepFramer connection framer
  account := h.account
  lawful := h.lawful
  found := h.found
  isOpen := h.isOpen

end Link

namespace Line

variable {observers : Observers}

/-! ## Entries -/

/-- A line after a piece was read: the link as the dispatch has left it, what is left in the intake,
and the entry for the piece. -/
def dispatched (link : Link) (rest : Intake) (piece : Bytes) (events : List LinkEvent)
    (line : Line) : Line where
  link := link
  intake := fun c => if c = line.connection then rest else line.intake c
  sent := line.sent
  readings := line.readings ++ [{ connection := line.connection, piece, events }]

section Entries

variable (link : Link) (rest : Intake) (piece : Bytes) (events : List LinkEvent) (line : Line)
  (c : Nat)

theorem piecesOf_dispatched : piecesOf c (dispatched link rest piece events line) =
    line.piecesOf c ++ if line.connection = c then [piece] else [] := by
  unfold dispatched piecesOf
  rw [List.filterMap_append]
  congr 1
  by_cases h : line.connection = c
  · simp [h]
  · simp [h]

theorem readOn_dispatched : readOn c (dispatched link rest piece events line) =
    line.readOn c ++ if line.connection = c then piece else [] := by
  rw [readOn, readOn, piecesOf_dispatched, List.flatten_append]
  congr 1
  by_cases h : line.connection = c
  · simp [h]
  · simp [h]

theorem eventsOf_dispatched : eventsOf c (dispatched link rest piece events line) =
    line.eventsOf c ++ if line.connection = c then events else [] := by
  unfold dispatched eventsOf
  rw [List.flatMap_append, List.flatMap_singleton]

end Entries

/-- A line after a chunk has arrived. -/
def arrived (bytes : Bytes) (line : Line) : Line where
  link := line.link
  intake := fun c =>
    if c = line.connection then (line.intake line.connection).put bytes else line.intake c
  sent := line.sent ++ [(line.connection, bytes)]
  readings := line.readings

/-- Bytes arrive only on a connection that is up and being read. Otherwise nothing at all happens.
-/
theorem inject_eq (bytes : Bytes) (line : Line) :
    line.inject bytes =
      if line.link.router.canSend && line.link.isReading line.connection then line.arrived bytes
      else line := rfl

/-- Bytes that arrive are sent on the present connection; what was sent on the others stays. -/
theorem sentOn_arrived (bytes : Bytes) (line : Line) (c : Nat) :
    sentOn c (line.arrived bytes) =
      line.sentOn c ++ if line.connection = c then bytes else [] := by
  unfold arrived sentOn
  rw [List.filterMap_append, List.flatten_append]
  congr 1
  by_cases h : line.connection = c
  · simp [h]
  · simp [h]

/-! ## What the framers find -/

/-- The packets that a fresh framer finds in what was read on a connection. -/
def packetsOn (connection : Nat) (line : Line) : List Packet :=
  (packets ((Framer.fresh .routerToHost).push (line.readOn connection)).drain.1).map Prod.fst

/-- The packets that the framers of a line have found, one connection after the other. -/
def packetsFound (line : Line) : List Packet :=
  (List.range (line.connection + 1)).flatMap fun c => line.packetsOn c

/-- It makes no difference to a framer in which pieces the bytes came. -/
theorem packetsOn_eq (connection : Nat) (line : Line) : line.packetsOn connection =
    RouterEnd.packetsOf ((Framer.fresh .routerToHost).feed (line.piecesOf connection)).1 := by
  rw [← map_fst_packets, Framer.packets_feed]
  rfl

theorem packetsOn_of_piecesOf_eq_nil {connection : Nat} {line : Line}
    (h : line.piecesOf connection = []) : line.packetsOn connection = [] := by
  rw [packetsOn_eq, h]
  rfl

/-- Connections on which nothing was read have nothing to add. -/
theorem flatMap_packetsOn {line : Line} {first last : Nat} (hle : first ≤ last)
    (h : ∀ c, first < c → line.packetsOn c = []) :
    ((List.range (last + 1)).flatMap fun c => line.packetsOn c) =
      (List.range (first + 1)).flatMap fun c => line.packetsOn c := by
  induction hle with
  | refl => rfl
  | step hle ih =>
    rw [List.range_succ, List.flatMap_append, ih, List.flatMap_singleton,
      h _ (Nat.lt_succ_of_le hle), List.append_nil]

/-! ## Balance -/

structure Balanced (observers : Observers) (line : Line) : Prop where
  chronicle : line.link.Chronicle observers
  /-- Whoever subscribes is sent what was found, whether there is an observer to be told or not. -/
  published : line.link.inbox.packets.sent.toList = line.packetsFound
  /-- On each connection, what was found is what a fresh framer finds in its pieces. -/
  reports : ∀ o < observers.count, ∀ c, Reports (observers.QuietAtFrames o)
    ((Framer.fresh .routerToHost).feed (line.piecesOf c)).1 (heard o (line.eventsOf c))
  /-- Nothing arrives but by reading. -/
  readings : ∀ o < observers.count, packetsOf (heard o line.link.events.toList) =
    line.readings.flatMap fun r => packetsOf (heard o r.events)
  framer : ∀ r ∈ line.link.readers,
    r.framer = ((Framer.fresh .routerToHost).feed (line.piecesOf r.connection)).2
  intake : ∀ c, line.sentOn c = line.readOn c ++ (line.intake c).unread
  later : ∀ c, line.connection < c → line.piecesOf c = [] ∧ line.intake c = {}

theorem balanced_start : Balanced observers {} where
  chronicle := Link.chronicle_start
  published := by
    have hnone : packetsOn 0 {} = [] := packetsOn_of_piecesOf_eq_nil rfl
    rw [packetsFound, connection, List.range_one, List.flatMap_singleton, hnone]
    rfl
  reports := fun _ _ _ => .nothing
  readings := fun _ _ => rfl
  framer := by simp
  intake := fun _ => rfl
  later := fun _ _ => ⟨rfl, rfl⟩

namespace Balanced

variable {line : Line} (h : line.Balanced observers)
include h

/-- A connection that has not begun has brought no packets. -/
theorem packetsOn_later (c : Nat) (hc : line.connection < c) : line.packetsOn c = [] :=
  packetsOn_of_piecesOf_eq_nil (h.later c hc).1

/-- An episode on which nothing arrives leaves the books as they are. -/
theorem undergo {causes : LinkLoss → Prop} {events : List LinkEvent} {link : Link}
    (hlink : Link.Episode observers causes (fun _ => []) [] line.link events link) :
    Balanced observers { line with link } where
  chronicle := h.chronicle.follow hlink (by simp)
  published := by
    -- There may be a new connection, but nothing was read on it yet.
    have hfound : packetsFound { line with link } = line.packetsFound :=
      flatMap_packetsOn hlink.connections h.packetsOn_later
    rw [hfound, ← h.published]
    exact congrArg (·.sent.toList) hlink.packets
  reports := h.reports
  readings := fun o ho => by
    rw [hlink.events_eq, heard_append, packetsOf_append, h.readings o ho,
      packetsOf_changes (hlink.reports o ho).changes, List.append_nil]
  framer := fun r hr => by
    -- A new reader belongs to a later connection, on which nothing was read.
    rcases hlink.readers r hr with hold | ⟨hnew, hfresh⟩
    · exact h.framer r hold
    · rw [hfresh, show Line.piecesOf r.connection { line with link } = [] from (h.later _ hnew).1]
      rfl
  intake := h.intake
  later := fun c hc => h.later c (Nat.lt_of_le_of_lt hlink.connections hc)

theorem arrived (bytes : Bytes) : Balanced observers (line.arrived bytes) where
  chronicle := h.chronicle
  published := h.published
  reports := h.reports
  readings := h.readings
  framer := h.framer
  intake := fun c => by
    rw [sentOn_arrived, h.intake c]
    by_cases hc : c = line.connection
    · simp [Line.arrived, hc, Intake.unread_put, readOn, piecesOf]
    · simp [Line.arrived, hc, Ne.symm hc, readOn, piecesOf]
  later := fun c hc => by
    have hother : c ≠ line.connection := Nat.ne_of_gt hc
    refine ⟨(h.later c hc).1, ?_⟩
    simp only [Line.arrived, if_neg hother]
    exact (h.later c hc).2

theorem setIntake {rest : Intake} (hrest : (line.intake line.connection).unread = rest.unread) :
    Balanced observers (line.setIntake line.connection rest) where
  chronicle := h.chronicle
  published := h.published
  reports := h.reports
  readings := h.readings
  framer := h.framer
  intake := fun c => by
    change line.sentOn c =
      line.readOn c ++ (if c = line.connection then rest else line.intake c).unread
    rw [h.intake c]
    by_cases hc : c = line.connection
    · rw [if_pos hc, hc, hrest]
    · rw [if_neg hc]
  later := fun c hc => by
    have hother : c ≠ line.connection := Nat.ne_of_gt hc
    refine ⟨(h.later c hc).1, ?_⟩
    simp only [Line.setIntake, if_neg hother]
    exact (h.later c hc).2

section Dispatch

variable {framer : Framer} (hup : line.link.Up framer) {piece : Bytes} {rest : Intake}
  (hread : (line.intake line.connection).unread = piece ++ rest.unread) {events : List LinkEvent}
  {causes : LinkLoss → Prop} {middle : Link}
  (hmiddle : Link.Episode observers causes (fun _ => (framer.push piece).drain.1)
    (RouterEnd.packetsOf (framer.push piece).drain.1) line.link events middle)
include hup

/-- The reader's framer has been fed the pieces of its connection, and now this one. -/
theorem feed_concat : (Framer.fresh .routerToHost).feed (line.piecesOf line.connection ++ [piece]) =
    (((Framer.fresh .routerToHost).feed (line.piecesOf line.connection)).1 ++
      (framer.push piece).drain.1, (framer.push piece).drain.2) := by
  have hframer := h.framer ⟨line.link.router.connections, framer⟩ (by simp [hup.readers])
  rw [Framer.feed_concat]
  rw [show framer = _ from hframer]
  rfl

/-- A piece that is read adds the packets which its connection's framer finds in it, and nothing to
another connection. -/
theorem packetsOn_dispatched (c : Nat) :
    packetsOn c (dispatched middle rest piece events line) = line.packetsOn c ++
      if line.connection = c then RouterEnd.packetsOf (framer.push piece).drain.1 else [] := by
  rw [packetsOn_eq, packetsOn_eq, piecesOf_dispatched]
  by_cases hc : line.connection = c
  · rw [if_pos hc, if_pos hc, ← hc, feed_concat h hup, RouterEnd.packetsOf_append]
  · rw [if_neg hc, if_neg hc, List.append_nil, List.append_nil]

/-- The packets of a piece come behind all that were found before, since only the latest connection
is read. -/
theorem packetsFound_dispatched (hle : line.connection ≤ middle.router.connections) :
    packetsFound (dispatched middle rest piece events line) =
      line.packetsFound ++ RouterEnd.packetsOf (framer.push piece).drain.1 := by
  have hsame {c : Nat} (hc : c ≠ line.connection) :
      packetsOn c (dispatched middle rest piece events line) = line.packetsOn c := by
    rw [packetsOn_dispatched h hup, if_neg (Ne.symm hc), List.append_nil]
  have hearlier : ((List.range line.connection).flatMap fun c =>
      packetsOn c (dispatched middle rest piece events line)) =
        (List.range line.connection).flatMap fun c => line.packetsOn c :=
    List.flatMap_congr fun c hc => hsame (Nat.ne_of_lt (List.mem_range.mp hc))
  refine (flatMap_packetsOn hle fun c hc => ?_).trans ?_
  · rw [hsame (Nat.ne_of_gt hc), h.packetsOn_later c hc]
  · rw [packetsFound, List.range_succ, List.flatMap_append, List.flatMap_append, hearlier,
      List.flatMap_singleton, List.flatMap_singleton, packetsOn_dispatched h hup, if_pos rfl,
      List.append_assoc]

include hmiddle

/-- A reader's framer has been fed the pieces of its own connection and nothing else. -/
theorem framer_dispatched {r : LinkReader}
    (hr : r ∈ (middle.keepFramer line.connection (framer.push piece).drain.2).readers) :
    r.framer = ((Framer.fresh .routerToHost).feed (line.piecesOf r.connection ++
      if line.connection = r.connection then [piece] else [])).2 := by
  obtain ⟨old, hold, rfl⟩ := List.mem_map.mp hr
  rcases hmiddle.readers old hold with hsame | ⟨hnew, hfresh⟩
  · have hconnection : old.connection = line.connection :=
      h.chronicle.settled.connection_eq hsame
    simp only [hconnection, if_true, feed_concat h hup]
  · have hother : old.connection ≠ line.connection := Nat.ne_of_gt hnew
    simp only [if_neg hother, if_neg (Ne.symm hother), List.append_nil, hfresh, (h.later _ hnew).1]
    rfl

include hread

/-- **Reading a piece adds what was found in it to the entries of its connection, and to no
other.** -/
theorem dispatch : Balanced observers
    (dispatched (middle.keepFramer line.connection (framer.push piece).drain.2) rest piece events
      line) where
  chronicle := (h.chronicle.follow hmiddle fun _ _ => Framer.encode_of_mem_drain).keepFramer _ _
  published := by
    -- What was sent before, and the packets in this piece.
    rw [packetsFound_dispatched h hup (by exact hmiddle.connections)]
    change middle.inbox.packets.sent.toList = _
    rw [hmiddle.packets, (Broadcast.sent_foldl_send h.chronicle.isOpen _).1, h.published]
  reports := fun o ho c => by
    rw [piecesOf_dispatched, eventsOf_dispatched, heard_append]
    by_cases hc : line.connection = c
    · rw [if_pos hc, if_pos hc, ← hc, feed_concat h hup]
      exact (h.reports o ho _).trans (hmiddle.reports o ho)
    · rw [if_neg hc, if_neg hc, List.append_nil, heard_nil, List.append_nil]
      exact h.reports o ho c
  readings := fun o ho => by
    change packetsOf (heard o middle.events.toList) = (line.readings ++ [_]).flatMap _
    rw [hmiddle.events_eq, heard_append, packetsOf_append, h.readings o ho, List.flatMap_append,
      List.flatMap_singleton]
  framer := fun r hr => by
    rw [piecesOf_dispatched]
    exact framer_dispatched h hup hmiddle hr
  intake := fun c => by
    rw [readOn_dispatched]
    change line.sentOn c = _ ++ (if c = line.connection then rest else line.intake c).unread
    rw [h.intake c]
    by_cases hc : c = line.connection
    · rw [hc, if_pos rfl, if_pos rfl, hread, List.append_assoc]
    · rw [if_neg hc, if_neg (Ne.symm hc), List.append_nil]
  later := fun c hc => by
    -- There may be a newer connection by now than the line was on, but none newer than this.
    have hlater : line.connection < c := Nat.lt_of_le_of_lt hmiddle.connections hc
    rw [piecesOf_dispatched, if_neg (Nat.ne_of_lt hlater), List.append_nil]
    change _ ∧ (if c = line.connection then rest else line.intake c) = {}
    rw [if_neg (Nat.ne_of_gt hlater)]
    exact h.later c hlater

end Dispatch
end Balanced

/-! ## Steps -/

/-- The failures that can lose a link in a step: those of a write, and that of the read itself. -/
def Move.Faults (move : Move) (cause : LinkLoss) : Prop :=
  cause.OfWrite ∨ ∃ reason, cause = .readFailed reason ∧ move = .failRead (.fatal reason)

/-- What one step can do to a line. -/
inductive Advance (observers : Observers) (line : Line) : Move → Line → Prop where
  /-- The link undergoes an episode on which nothing arrives, or nothing happens at all. -/
  | undergoes {move : Move} (causes : LinkLoss → Prop) {events : List LinkEvent} {link : Link}
      (hcauses : ∀ cause, causes cause → move.Faults cause)
      (hlink : Link.Episode observers causes (fun _ => []) [] line.link events link) :
    Advance observers line move { line with link }
  | arrives (bytes : Bytes) : Advance observers line (.inject bytes) (line.arrived bytes)
  /-- The reader finds the end: nothing is left of what a router sent that has hung up, or it reads
  no bytes at all. -/
  | ends {move : Move} {rest : Intake} {events : List LinkEvent} {link : Link}
      (hread : (line.intake line.connection).read Link.pieceSize = (some [], rest) ∨
        (line.intake line.connection).unread = [] ∧ line.link.router.canSend = false ∧
          rest = line.intake line.connection)
      (hlink : Link.Episode observers (· = .endOfStream) (fun _ => []) [] line.link events link) :
    Advance observers line move { line.setIntake line.connection rest with link }
  | dispatches {move : Move} {framer : Framer} {piece : Bytes} {rest : Intake}
      {events : List LinkEvent} {middle : Link} (hup : line.link.Up framer)
      (hread : (line.intake line.connection).read Link.pieceSize = (some piece, rest))
      (hmiddle : Link.Episode observers LinkLoss.OfWrite (fun _ => (framer.push piece).drain.1)
        (RouterEnd.packetsOf (framer.push piece).drain.1) line.link events middle) :
    Advance observers line move
      (dispatched (middle.keepFramer line.connection (framer.push piece).drain.2) rest piece events
        line)

theorem Advance.rests {line : Line} (h : line.link.Settled) (move : Move) :
    Advance observers line move line :=
  .undergoes (fun _ => False) nofun (.refl h)

theorem setIntake_self (line : Line) (c : Nat) : line.setIntake c (line.intake c) = line := by
  unfold setIntake
  congr 1
  funext n
  split
  · rename_i h
    rw [h]
  · rfl

section Steps

variable (hdiscreet : observers.Discreet) (depth : Nat)
include hdiscreet

/-- A piece is dispatched, and what happens meanwhile is entered. -/
theorem takePiece_eq {line : Line} {framer : Framer} (hup : line.link.Up framer) (piece : Bytes)
    (rest : Intake) :
    ∃ events middle,
      Link.Episode observers LinkLoss.OfWrite (fun _ => (framer.push piece).drain.1)
        (RouterEnd.packetsOf (framer.push piece).drain.1) line.link events middle ∧
      (line.setIntake line.connection rest).takePiece (observers.tell depth) piece =
        dispatched (middle.keepFramer line.connection (framer.push piece).drain.2) rest piece events
          line := by
  obtain ⟨events, middle, hmiddle, hpiece⟩ := Link.episode_readPiece hdiscreet depth hup piece
  refine ⟨events, middle, hmiddle, ?_⟩
  have hdrop : middle.events.toList.drop line.link.events.size = events := by
    rw [hmiddle.events_eq]
    exact List.drop_left
  unfold takePiece dispatched
  simp only [setIntake, connection, hpiece]
  rw [← hdrop]
  rfl

theorem episode_endReader {link : Link} (h : link.Settled) (causes : LinkLoss → Prop)
    {cause : LinkLoss} (hcause : causes cause) :
    ∃ events, Link.Episode observers causes (fun _ => []) [] link events
      (Link.endReader (observers.tell depth) link.router.connections cause link) := by
  have htell := Observers.announces_tell hdiscreet depth
  rw [Link.endReader_eq htell h]
  exact Link.episode_lose htell h hcause

/-- Reading is where a piece becomes packets; the cases are no reading, nothing to read, the end of
the stream, and bytes. -/
theorem advance_read {line : Line} (h : line.link.Settled) (move : Move) :
    Advance observers line move (line.read (observers.tell depth)) := by
  obtain ⟨events, hend⟩ := episode_endReader hdiscreet depth h (· = .endOfStream) rfl
  unfold read
  split
  · rename_i hreading
    split
    · rename_i hread
      have hunread := Intake.unread_of_read_none hread
      split
      · exact .rests h move
      · rename_i hhungUp
        have hstop : Advance observers line move (endRead (observers.tell depth)
            (line.setIntake line.connection (line.intake line.connection))) :=
          .ends (.inr ⟨hunread, by simpa using hhungUp, rfl⟩) hend
        rwa [setIntake_self] at hstop
    · rename_i piece rest hread
      simp only
      split
      · rename_i hempty
        rw [List.isEmpty_iff.mp hempty] at hread
        exact .ends (.inl hread) hend
      · obtain ⟨-, framer, hup⟩ := h.isReading hreading
        obtain ⟨events, middle, hmiddle, htake⟩ := takePiece_eq hdiscreet depth hup piece rest
        rw [htake]
        exact .dispatches hup hread hmiddle
  · exact .rests h move

/-- One move of the world, of whichever kind, takes the books on. The run follows by induction. -/
theorem advance_step {line : Line} (h : line.link.Settled) (move : Move) :
    Advance observers line move (line.step (observers.tell depth) move) := by
  cases move with
  | call call =>
    obtain ⟨events, hepisode⟩ := Link.episode_perform (Observers.announces_tell hdiscreet depth) h
      call
    exact .undergoes _ (fun _ => .inl) hepisode
  | refuse refusing => exact .undergoes (fun _ => False) nofun (.of_router h rfl)
  | inject bytes =>
    rw [step, inject_eq]
    split
    · exact .arrives bytes
    · exact .rests h _
  | hangUp => exact .undergoes (fun _ => False) nofun (.of_router h rfl)
  | read => exact advance_read hdiscreet depth h _
  | failRead failure =>
    cases failure with
    | transient => exact .rests h _
    | fatal reason =>
      obtain ⟨events, hepisode⟩ := episode_endReader hdiscreet depth h
        (· = .readFailed reason) rfl
      exact .undergoes _ (fun cause hcause => .inr ⟨reason, hcause, rfl⟩) hepisode

end Steps

/-- **One step keeps the books balanced.** -/
theorem Balanced.advance {line after : Line} {move : Move} (h : line.Balanced observers)
    (hstep : Advance observers line move after) : after.Balanced observers := by
  cases hstep with
  | undergoes _ _ hlink => exact h.undergo hlink
  | arrives bytes => exact h.arrived bytes
  | @ends _ rest _ _ hread hlink =>
    refine (h.setIntake ?_).undergo hlink
    rcases hread with hread | ⟨-, -, hrest⟩
    · exact (Intake.unread_of_read_some hread).1
    · rw [hrest]
  | dispatches hup hread hmiddle =>
    exact h.dispatch hup (Intake.unread_of_read_some hread).1 hmiddle

/-- **Every run keeps the books balanced.** -/
theorem balanced_run (hdiscreet : observers.Discreet) (depth : Nat) {line : Line}
    (h : line.Balanced observers) (moves : List Move) :
    Balanced observers (line.run (observers.tell depth) moves) := by
  induction moves generalizing line with
  | nil => exact h
  | cons move moves ih =>
    exact ih (h.advance (advance_step hdiscreet depth h.chronicle.settled move))

end Line
end SensorLink
