import SensorLink.Proofs.Framer.Conservation
import SensorLink.Proofs.Link.Books
import SensorLink.Proofs.Link.Ledger
import Mathlib.Algebra.BigOperators.Group.Finset.Piecewise
import Mathlib.Algebra.GroupWithZero.Nat

/-!
# What the counters of a line account for

`Ledger` settles what the calls do to the books of a link. What is left is the observers, who tell
nothing that they were not told to tell (`Observers.fair_tell`), and the reader, the one place where
anything arrives. So

> **every counter is what an observer would have counted, and the bytes that were received are, for
> each connection, those of the frames that were delivered, those that were given up, and the rest
> that no frame came of** (`counters_account`),

at the end of every step and for observers that call the link from wherever they like. The account
of the bytes is the framer's own (`Framer.feed_bytes`); the reader has to be shown to have been fed
the pieces of its connection and nothing else, through all that may be done to the link between two
of them.
-/

namespace SensorLink

/-! ## Observers -/

namespace Observers

open Link (Squares Tells Ledger)

variable {observers : Observers} {count : Nat}

/-- A way of making calls that squares. -/
structure CallsSquare (calls : List Call → Link → Link) (count : Nat) : Prop where
  squares : ∀ cs link, Squares count [] 0 link (calls cs link)
  connecting : ∀ cs link, link.state = .connecting → (calls cs link).state = .connecting

theorem callsSquare_listening : CallsSquare (fun _ link => link) count where
  squares _ link := .refl link
  connecting _ _ h := h

/-- If telling is fair, the calls that observers make are squared by the operations that they call.
-/
theorem callsSquare_performAll {tell : Tell} (htell : tell.Fair count) :
    CallsSquare (Link.performAll tell .fromObserver) count where
  squares cs link := Link.squares_performAll htell (fun _ _ => rfl) link cs
  connecting cs _ h := Link.state_performAll .fromObserver cs h

section Telling

variable {calls : List Call → Link → Link} (hcalls : CallsSquare calls count)
include hcalls

/-- One observer that is told something hears it, and then what its own calls bring about. The
others hear of these calls only. -/
theorem tells_one (o : Nat) (notice : Notice) (link : Link) :
    Tells count (fun o' => heard o' [.told o notice]) link
      (observers.tellOne calls o notice link) := by
  obtain ⟨more, hmore, hledger⟩ := hcalls.squares
    (observers.react (link.record (.told o notice)).events o notice) (link.record (.told o notice))
  exact ⟨more, hmore, (Ledger.record _ link).trans hledger⟩

theorem tells_turn (o : Nat) (notices : List Notice) (link : Link) :
    Tells count (fun o' => heard o' (notices.map (.told o))) link
      (notices.foldl (fun link notice => observers.tellOne calls o notice link) link) := by
  induction notices generalizing link with
  | nil => exact .of_squares (.refl link)
  | cons n notices ih =>
    refine ((tells_one hcalls o n link).trans (ih _)).congr fun o' _ => ?_
    exact (heard_append o' [.told o n] _).symm

/-- Nothing is assumed of the order of the turns, since a ledger does not keep it. -/
theorem tells_turns (turns : List Nat) (notices : List Notice) (link : Link) :
    Tells count (fun o' => heard o' (turns.flatMap fun o => notices.map (.told o))) link
      (turns.foldl (fun link o =>
        notices.foldl (fun link notice => observers.tellOne calls o notice link) link) link) := by
  induction turns generalizing link with
  | nil => exact .of_squares (.refl link)
  | cons o turns ih =>
    refine ((tells_turn hcalls o notices link).trans (ih _)).congr fun o' _ => ?_
    rw [List.flatMap_cons, heard_append]

theorem connecting_tellAll (notices : List Notice) {link : Link} (h : link.state = .connecting) :
    (observers.tellAll calls notices link).state = .connecting := by
  unfold tellAll
  refine List.foldlRecOn (motive := fun link : Link => link.state = .connecting) _ _ h ?_
  intro link h o _
  refine List.foldlRecOn (motive := fun link : Link => link.state = .connecting) _ _ h ?_
  intro link h n _
  exact hcalls.connecting _ _ h

end Telling

/-- **Observers tell nothing that they were not told to tell**, and a link that is connecting stays
so while they are told of it. -/
theorem fair_tellAll {calls : List Call → Link → Link}
    (hcalls : CallsSquare calls observers.count) :
    Tell.Fair (observers.tellAll calls) observers.count where
  tells notices link := by
    refine (tells_turns hcalls (List.range observers.count) notices link).congr fun o ho => ?_
    exact (heard_announcement o observers.count notices).trans (if_pos ho)
  connecting notices _ h := connecting_tellAll hcalls notices h

/-- **Observers are told what they are to be told**, whatever they call, at any depth. -/
theorem fair_tell (observers : Observers) (depth : Nat) :
    (observers.tell depth).Fair observers.count := by
  induction depth with
  | zero => exact fair_tellAll callsSquare_listening
  | succ depth ih => exact fair_tellAll (callsSquare_performAll ih)

end Observers

/-! ## Reading -/

namespace Link

variable {tell : Tell} {count : Nat} (htell : tell.Fair count)
include htell

/-- One counter goes up for each thing that is found: that of the packets, or that of what was
malformed. -/
theorem squares_dispatch (event : FramerEvent) (link : Link) :
    Squares count event.notices 0 link (dispatch tell link event) := by
  cases event with
  | packet p raw =>
    have hcounted : Ledger count { counted := [.frame raw, .packet p] } link
        (link.count fun s => { s with packetsReceived := s.packetsReceived + 1 }) :=
      .counting link (fun k => by cases k <;> rfl) rfl rfl
    have htold := squares_tell htell [.frame raw, .packet p] hcounted
    have hsent (told : Link) : Ledger count {} told
        { told with inbox := { told.inbox with packets := told.inbox.packets.send p } } :=
      .nothing rfl rfl rfl rfl fun _ hr => hr
    exact htold.trans (.of_nothing (hsent _))
  | discarded cause dropped =>
    have hcounted : Ledger count { counted := [.error (.malformed cause)] } link
        (link.count fun s => { s with decodeErrors := s.decodeErrors + 1 }) :=
      .counting link (fun k => by cases k <;> rfl) rfl rfl
    exact squares_tell htell [.error (.malformed cause)] hcounted

/-- A piece is squared event by event, whatever the observers do between two of them. -/
theorem squares_dispatchAll (found : List FramerEvent) (link : Link) :
    Squares count (found.flatMap FramerEvent.notices) 0 link
      (found.foldl (dispatch tell) link) := by
  induction found generalizing link with
  | nil => exact .refl link
  | cons event found ih => exact (squares_dispatch htell event link).trans (ih _)

/-- A piece is read by the reader of its connection, and what is found in it arrives. -/
theorem readPiece_eq {link : Link} {connection : Nat} (hreading : link.isReading connection)
    (piece : Bytes) : ∃ reader ∈ link.readers, reader.connection = connection ∧
      ∃ middle, Squares count ((reader.framer.push piece).drain.1.flatMap FramerEvent.notices)
          piece.length link middle ∧
        readPiece tell connection piece link =
          middle.keepFramer connection (reader.framer.push piece).drain.2 := by
  obtain ⟨reader, hfind⟩ : ∃ r, link.readers.find? (·.connection = connection) = some r := by
    rw [← Option.isSome_iff_exists, List.find?_isSome]
    simpa [isReading] using hreading
  refine ⟨reader, List.mem_of_find?_eq_some hfind, by simpa using List.find?_some hfind, ?_⟩
  have hreceived : Ledger count { read := piece.length } link
      (link.count fun s => { s with bytesReceived := s.bytesReceived + piece.length }) :=
    .counting link (fun k => by cases k <;> rfl) rfl rfl
  have hread : Squares count [] piece.length link _ := ⟨[], rfl, hreceived⟩
  have hfound := hread.trans (squares_dispatchAll htell (reader.framer.push piece).drain.1 _)
  rw [List.nil_append, Nat.add_zero] at hfound
  refine ⟨_, hfound, ?_⟩
  unfold readPiece
  rw [hfind]

end Link

/-! ## Steps of a line -/

namespace Line

open Link (Squares Ledger)

variable {count : Nat} {line after : Line}

/-- What one step of a line comes to: something is done to the link and nothing is read, or the
reader of the connection reads a piece. -/
inductive Stretch (count : Nat) (line : Line) : Line → Prop where
  | quiet {link : Link} {intake : Nat → Intake} {sent : List (Nat × Bytes)}
      (h : Squares count [] 0 line.link link) : Stretch count line { line with link, intake, sent }
  | reads {reader : LinkReader} {piece : Bytes} {rest : Intake} {middle : Link}
      (hreader : reader ∈ line.link.readers) (hconnection : reader.connection = line.connection)
      (h : Squares count ((reader.framer.push piece).drain.1.flatMap FramerEvent.notices)
        piece.length line.link middle) :
      Stretch count line (dispatched
        (middle.keepFramer line.connection (reader.framer.push piece).drain.2) rest piece
        (middle.events.toList.drop line.link.events.size) line)

theorem stretch_read {tell : Tell} (htell : tell.Fair count) (line : Line) :
    Stretch count line (line.read tell) := by
  -- A stop of the reader reads nothing, whatever else it does.
  have hended (line' : Line) (hlink : line'.link = line.link)
      (hreadings : line'.readings = line.readings) : Stretch count line (line'.endRead tell) := by
    obtain ⟨link, intake, sent, readings⟩ := line'
    subst hlink hreadings
    exact .quiet (Link.squares_endReader htell _ _ _)
  unfold Line.read
  split
  · rename_i hreading
    split
    · split
      · exact .quiet (.refl _)
      · exact hended line rfl rfl
    · rename_i piece rest _
      dsimp only
      split
      · exact hended _ rfl rfl
      · obtain ⟨reader, hreader, hconnection, middle, hmiddle, hpiece⟩ :=
          Link.readPiece_eq htell hreading piece
        have hlink : Link.readPiece tell (line.setIntake line.connection rest).connection piece
            (line.setIntake line.connection rest).link = _ := hpiece
        unfold takePiece
        rw [hlink]
        exact .reads hreader hconnection hmiddle
  · exact .quiet (.refl _)

/-- **A step is one of two things**, and in the second one the reader that reads is one that was
there. -/
theorem stretch_step {tell : Tell} (htell : tell.Fair count) (line : Line) (move : Move) :
    Stretch count line (line.step tell move) := by
  cases move with
  | call call => exact .quiet (Link.squares_perform htell line.link call)
  | refuse refusing => exact .quiet (.of_nothing (.nothing rfl rfl rfl rfl fun _ hr => hr))
  | inject bytes =>
    unfold step inject
    dsimp only
    split
    · exact .quiet (.refl _)
    · exact .quiet (.refl _)
  | hangUp => exact .quiet (.of_nothing (.nothing rfl rfl rfl rfl fun _ hr => hr))
  | read => exact stretch_read htell line
  | failRead failure =>
    cases failure with
    | transient => exact .quiet (.refl _)
    | fatal reason => exact .quiet (Link.squares_endReader htell _ _ _)

/-! ## Counters only go up -/

/-- The counters of one line are at most those of another. -/
structure Grows (line after : Line) : Prop where
  counted : ∀ k : Counter, k.kept line.link ≤ k.kept after.link
  received : line.link.stats.bytesReceived ≤ after.link.stats.bytesReceived
  sent : line.link.stats.bytesSent ≤ after.link.stats.bytesSent

protected theorem Grows.refl (line : Line) : Grows line line :=
  ⟨fun _ => Nat.le_refl _, Nat.le_refl _, Nat.le_refl _⟩

theorem Grows.trans {middle : Line} (h : Grows line middle) (h' : Grows middle after) :
    Grows line after where
  counted k := Nat.le_trans (h.counted k) (h'.counted k)
  received := Nat.le_trans h.received h'.received
  sent := Nat.le_trans h.sent h'.sent

/-- Nothing that is done to a line takes anything back from a counter. -/
theorem Stretch.grows (h : Stretch count line after) : Grows line after := by
  have hsquares {arrivals : List Notice} {read : Nat} {link : Link}
      (h : Squares count arrivals read line.link link) (line' : Line)
      (hstats : line'.link.stats = link.stats)
      (hconnections : line'.link.router.connections = link.router.connections) :
      Grows line line' := by
    obtain ⟨notices, -, hledger⟩ := h
    refine ⟨fun k => ?_, ?_, ?_⟩
    · unfold Counter.kept
      rw [hstats, hconnections]
      exact Nat.le.intro (hledger.counted k).symm
    · rw [hstats, hledger.received]
      exact Nat.le_add_right _ _
    · rw [hstats]
      exact hledger.sent
  cases h with
  | quiet h => exact hsquares h _ rfl rfl
  | reads _ _ h => exact hsquares h _ rfl rfl

theorem grows_run {tell : Tell} (htell : tell.Fair count) (line : Line) (moves : List Move) :
    Grows line (line.run tell moves) := by
  induction moves generalizing line with
  | nil => exact .refl line
  | cons move moves ih => exact (stretch_step htell line move).grows.trans (ih _)

/-! ## The books of a run -/

/-- The reader of a connection after its pieces: what a fresh framer makes of them. -/
def framed (line : Line) (connection : Nat) : List FramerEvent × Framer :=
  (Framer.fresh .routerToHost).feed (line.piecesOf connection)

/-- What every step keeps. -/
structure Booked (count : Nat) (line : Line) : Prop where
  columns : ∃ notices, (∀ o < count, Reordered (heard o line.link.events.toList) notices) ∧
    line.link.inbox.state = (statesOf notices).foldl Watch.publish { value := .disconnected } ∧
    ∀ k : Counter, k.kept line.link = notices.countP k.counts
  received : line.link.stats.bytesReceived = (line.readings.map (·.piece.length)).sum
  numbered : ∀ r ∈ line.readings, r.connection ≤ line.connection
  arrivals : ∀ o < count, ∀ c, arrivalsOf (heard o (line.eventsOf c)) =
    (line.framed c).1.flatMap FramerEvent.notices
  /-- Nothing arrives but by reading. -/
  readings : ∀ o < count, arrivalsOf (heard o line.link.events.toList) =
    line.readings.flatMap fun r => arrivalsOf (heard o r.events)
  framer : ∀ r ∈ line.link.readers, r.framer = (line.framed r.connection).2

namespace Booked

theorem start : Booked count {} where
  columns := ⟨[], fun _ _ => .refl _, rfl, fun k => by cases k <;> rfl⟩
  received := rfl
  numbered := by simp
  arrivals _ _ _ := rfl
  readings _ _ := rfl
  framer := by simp

variable (h : line.Booked count)
include h

theorem framed_of_later {c : Nat} (hc : line.connection < c) :
    line.framed c = ([], .fresh .routerToHost) := by
  have hpieces : line.piecesOf c = [] := by
    rw [piecesOf, List.filterMap_eq_nil_iff]
    intro r hr
    have hle := h.numbered r hr
    exact if_neg (by omega)
  rw [framed, hpieces]
  rfl

/-- The columns of what has happened so far and of what happens now are added up. -/
theorem columns_ledger {arrivals : List Notice} {read : Nat} {link : Link}
    (hlink : Squares count arrivals read line.link link) :
    ∃ notices, (∀ o < count, Reordered (heard o link.events.toList) notices) ∧
      link.inbox.state = (statesOf notices).foldl Watch.publish { value := .disconnected } ∧
      ∀ k : Counter, k.kept link = notices.countP k.counts := by
  obtain ⟨notices, hheard, hwatched, hcounted⟩ := h.columns
  obtain ⟨more, -, hledger⟩ := hlink
  obtain ⟨events, hevents, htold⟩ := hledger.events
  refine ⟨notices ++ more, fun o ho => ?_, ?_, fun k => ?_⟩
  · rw [hevents, heard_append]
    exact (hheard o ho).append (htold o ho)
  · rw [hledger.watched, hwatched, statesOf, statesOf, List.filterMap_append, List.foldl_append]
    rfl
  · rw [hledger.counted, hcounted, List.countP_append]
    rfl

theorem quiet {link : Link} {intake : Nat → Intake} {sent : List (Nat × Bytes)}
    (hlink : Squares count [] 0 line.link link) :
    Booked count { line with link, intake, sent } where
  columns := h.columns_ledger hlink
  received := by
    obtain ⟨_, -, hledger⟩ := hlink
    exact hledger.received.trans h.received
  numbered r hr := by
    obtain ⟨_, -, hledger⟩ := hlink
    exact Nat.le_trans (h.numbered r hr) hledger.connections_le
  arrivals := h.arrivals
  readings o ho := by
    obtain ⟨more, hmore, hledger⟩ := hlink
    obtain ⟨events, hevents, htold⟩ := hledger.events
    have hnone : arrivalsOf (heard o events) = [] := (htold o ho).arrivals.trans hmore
    rw [hevents, heard_append, arrivalsOf_append, hnone, List.append_nil]
    exact h.readings o ho
  framer r hr := by
    obtain ⟨_, -, hledger⟩ := hlink
    rcases hledger.readers r hr with hr | ⟨hfresh, hnew⟩
    · exact h.framer r hr
    · rw [hfresh]
      exact (congrArg Prod.snd (h.framed_of_later hnew)).symm

section Reads

variable {reader : LinkReader} {piece : Bytes} {rest : Intake} {middle : Link}
  (hreader : reader ∈ line.link.readers) (hconnection : reader.connection = line.connection)
include hreader hconnection

/-- The pieces of the connection are those that its reader has been fed, and this one. -/
theorem framed_dispatched {link : Link} {events : List LinkEvent} (c : Nat) :
    framed (dispatched link rest piece events line) c =
      if line.connection = c then
        ((line.framed c).1 ++ (reader.framer.push piece).drain.1,
          (reader.framer.push piece).drain.2)
      else line.framed c := by
  unfold framed
  rw [piecesOf_dispatched]
  split
  · rename_i hc
    rw [Framer.feed_concat, h.framer reader hreader, hconnection, hc]
    rfl
  · rw [List.append_nil]

/-- **Reading a piece adds to one connection what its framer finds**, and that framer is the one
that was fed all pieces of the connection before. -/
theorem reads
    (hmiddle : Squares count ((reader.framer.push piece).drain.1.flatMap FramerEvent.notices)
      piece.length line.link middle) :
    Booked count (dispatched
      (middle.keepFramer line.connection (reader.framer.push piece).drain.2) rest piece
      (middle.events.toList.drop line.link.events.size) line) := by
  have hcolumns := h.columns_ledger hmiddle
  obtain ⟨more, hmore, hledger⟩ := hmiddle
  obtain ⟨events, hevents, htold⟩ := hledger.events
  have hdrop : middle.events.toList.drop line.link.events.size = events := by
    rw [hevents, ← Array.length_toList, List.drop_left]
  rw [hdrop]
  have harrived (o : Nat) (ho : o < count) : arrivalsOf (heard o events) =
      (reader.framer.push piece).drain.1.flatMap FramerEvent.notices :=
    (htold o ho).arrivals.trans hmore
  refine
    { columns := hcolumns
      received := ?received
      numbered := ?numbered
      arrivals := ?arrivals
      readings := ?readings
      framer := ?framer }
  case received =>
    show middle.stats.bytesReceived = ((line.readings ++ [_]).map _).sum
    rw [List.map_append, List.sum_append, ← h.received, hledger.received]
    simp [Entry.square]
  case numbered =>
    intro r hr
    refine Nat.le_trans ?_ hledger.connections_le
    rcases List.mem_append.mp hr with hr | hr
    · exact h.numbered r hr
    · rw [List.mem_singleton.mp hr]
      exact Nat.le_refl _
  case arrivals =>
    intro o ho c
    rw [h.framed_dispatched hreader hconnection, eventsOf_dispatched, heard_append,
      arrivalsOf_append, h.arrivals o ho]
    split
    · rw [harrived o ho, List.flatMap_append]
    · exact List.append_nil _
  case readings =>
    intro o ho
    show arrivalsOf (heard o middle.events.toList) = (line.readings ++ [_]).flatMap _
    rw [hevents, heard_append, arrivalsOf_append, h.readings o ho, List.flatMap_append,
      List.flatMap_singleton]
  case framer =>
    intro r hr
    rw [h.framed_dispatched hreader hconnection]
    obtain ⟨old, hold, rfl⟩ := List.mem_map.mp hr
    by_cases hc : old.connection = line.connection
    · simp [hc]
    · simp only [if_neg hc, if_neg (Ne.symm hc)]
      -- A reader of another connection was there before, or is new and has been fed nothing.
      rcases hledger.readers old hold with hold | ⟨hfresh, hnew⟩
      · exact h.framer old hold
      · rw [hfresh]
        exact (congrArg Prod.snd (h.framed_of_later hnew)).symm

end Reads

theorem stretch (hstretch : Stretch count line after) : after.Booked count := by
  cases hstretch with
  | quiet hlink => exact h.quiet hlink
  | reads hreader hconnection hmiddle => exact h.reads hreader hconnection hmiddle

/-- What holds at the start and after each stretch holds after every run. -/
theorem run {tell : Tell} (htell : tell.Fair count) (moves : List Move) :
    (line.run tell moves).Booked count := by
  induction moves generalizing line with
  | nil => exact h
  | cons move moves ih => exact ih (h.stretch (stretch_step htell line move))

end Booked

/-! ## The contract -/

/-- The bytes that were given up among events. -/
def lossesOf (events : List FramerEvent) : List Bytes :=
  events.filterMap fun
    | .packet .. => none
    | .discarded _ dropped => some dropped

/-- The frames among notices. -/
def framesOf (notices : List Notice) : List Bytes :=
  notices.filterMap fun
    | .frame raw => some raw
    | _ => none

theorem length_bytes (events : List FramerEvent) : (events.flatMap FramerEvent.bytes).length =
    ((framesOf (events.flatMap FramerEvent.notices)).map List.length).sum +
      ((lossesOf events).map List.length).sum := by
  induction events with
  | nil => rfl
  | cons event events ih =>
    cases event with
    | packet p raw =>
      simp [FramerEvent.bytes, FramerEvent.notices, framesOf, lossesOf] at ih ⊢
      omega
    | discarded cause dropped =>
      simp [FramerEvent.bytes, FramerEvent.notices, framesOf, lossesOf] at ih ⊢
      omega

theorem framesOf_arrivalsOf (notices : List Notice) :
    framesOf (arrivalsOf notices) = framesOf notices := by
  induction notices with
  | nil => rfl
  | cons n notices ih =>
    cases n with
    | frame raw => exact congrArg (raw :: ·) ih
    | state s | packet p => exact ih
    | error e => cases e <;> exact ih

/-- A counter of one kind of change counts the states of that kind. -/
theorem countP_counts {k : Counter} {state : LinkState}
    (hk : ∀ n : Notice, k.counts n = ((n.state?.map (· == state)).getD false))
    (notices : List Notice) : notices.countP k.counts = (statesOf notices).count state := by
  rw [List.count, statesOf, List.countP_filterMap]
  exact List.countP_congr fun n _ => by rw [hk n]

/-- Every byte that was read was read on some connection. -/
theorem sum_readings (readings : List Reading) {n : Nat} (h : ∀ r ∈ readings, r.connection ≤ n) :
    (readings.map (·.piece.length)).sum =
      ∑ c ∈ Finset.range (n + 1), (readings.filterMap fun r =>
        if r.connection = c then some r.piece else none).flatten.length := by
  induction readings with
  | nil => simp
  | cons r readings ih =>
    have hr : r.connection ∈ Finset.range (n + 1) :=
      Finset.mem_range.mpr (Nat.lt_succ_of_le (h r List.mem_cons_self))
    have hone (c : Nat) : ((r :: readings).filterMap fun r =>
          if r.connection = c then some r.piece else none).flatten.length =
        (if r.connection = c then r.piece.length else 0) + (readings.filterMap fun r =>
          if r.connection = c then some r.piece else none).flatten.length := by
      rw [List.filterMap_cons]
      by_cases hc : r.connection = c
      · simp [hc]
      · simp [hc]
    rw [Finset.sum_congr rfl fun c _ => hone c, Finset.sum_add_distrib, Finset.sum_ite_eq,
      if_pos hr, ← ih fun r hr => h r (List.mem_cons_of_mem _ hr)]
    rfl

/-- What the counters of a line account for. -/
structure Accounted (observers : Observers) (line : Line) : Prop where
  /-- Every observer, having counted what it was told, would come to the same. -/
  counted : ∀ o < observers.count, ∀ k : Counter,
    k.kept line.link = (heard o line.link.events.toList).countP k.counts
  published : ∃ published : List LinkState,
    line.link.inbox.state = published.foldl Watch.publish { value := .disconnected } ∧
    (∀ o < observers.count, (statesOf (heard o line.link.events.toList)).Perm published) ∧
    line.link.stats.connectionAttempts = published.count .connecting ∧
    line.link.router.connections = published.count .connected
  received : line.link.stats.bytesReceived =
    ∑ c ∈ Finset.range (line.connection + 1), (line.readOn c).length
  /-- A connection's bytes are those of its frames, those that were given up, and the rest. -/
  bytes : ∀ o < observers.count, ∀ c, (line.readOn c).length =
    ((framesOf (heard o (line.eventsOf c))).map List.length).sum +
      ((lossesOf (line.framed c).1).map List.length).sum + (line.framed c).2.buffer.length
  arrivals : ∀ o < observers.count, ∀ c, arrivalsOf (heard o (line.eventsOf c)) =
    (line.framed c).1.flatMap FramerEvent.notices
  readings : ∀ o < observers.count, arrivalsOf (heard o line.link.events.toList) =
    line.readings.flatMap fun r => arrivalsOf (heard o r.events)
  /-- While its reader is there, it holds the rest. -/
  framer : ∀ r ∈ line.link.readers, r.framer = (line.framed r.connection).2

/-- The contract is read off the books at the end of a run. It says nothing that a step does not
keep. -/
theorem Booked.toAccounted {observers : Observers} (h : line.Booked observers.count) :
    line.Accounted observers where
  counted o ho k := by
    obtain ⟨notices, hheard, -, hcounted⟩ := h.columns
    rw [hcounted, (hheard o ho).perm.countP_eq]
  published := by
    obtain ⟨notices, hheard, hwatched, hcounted⟩ := h.columns
    refine ⟨statesOf notices, hwatched, fun o ho => (hheard o ho).perm.filterMap _, ?_, ?_⟩
    · refine (hcounted .attempts).trans (countP_counts (fun n => ?_) notices)
      cases n with
      | state s => cases s <;> rfl
      | frame raw | packet p | error e => rfl
    · refine (hcounted .connections).trans (countP_counts (fun n => ?_) notices)
      cases n with
      | state s => cases s <;> rfl
      | frame raw | packet p | error e => rfl
  received := h.received.trans (sum_readings line.readings h.numbered)
  bytes o ho c := by
    have hbytes := congrArg List.length
      (Framer.feed_bytes (.fresh .routerToHost) (line.piecesOf c))
    rw [List.length_append, List.length_append, length_bytes] at hbytes
    rw [← framesOf_arrivalsOf, h.arrivals o ho c]
    exact (Nat.zero_add _).symm.trans hbytes
  arrivals := h.arrivals
  readings := h.readings
  framer := h.framer

/-- **The counters account for every byte and every packet**, after any moves and for observers that
make any calls; and they never go down. -/
theorem counters_account (observers : Observers) (depth : Nat) (moves : List Move) :
    let tell := observers.tell depth
    let line := run tell moves {}
    line.Accounted observers ∧ ∀ more, Grows line (line.run tell more) := by
  intro tell line
  have htell := observers.fair_tell depth
  exact ⟨(Booked.start.run htell moves).toAccounted, grows_run htell line⟩

end Line
end SensorLink
