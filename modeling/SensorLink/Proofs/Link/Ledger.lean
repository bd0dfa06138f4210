import SensorLink.Proofs.Link.Dispatch

/-!
# What the counters count

A link counts what it does: connections that are tried and that come about, packets that arrive and
bytes that are no packets. An observer could count as well, by what it is told. The two agree
although neither looks at the other, and although a counter may stand still in the middle of what it
counts, while the observers are being told and make calls of their own.

A `Ledger` has a column for each: what the observers are told, what is published, what is counted
and how much is read, in some stretch of a run. Stretches add up (`Ledger.trans`), and

> **whatever is done to a link, the columns agree when it is done** (`Squares`).

Nothing is assumed of the observers. They may call the link from inside anything that they are told,
so they need not hear of two changes in the order in which they came about: of what they are told,
only what has arrived is in order (`Reordered`).
-/

namespace SensorLink

/-! ## Notices in another order -/

/-- The notices of what has arrived. -/
def arrivalsOf (notices : List Notice) : List Notice := notices.filter (!·.isChange)

theorem arrivalsOf_append (notices more : List Notice) :
    arrivalsOf (notices ++ more) = arrivalsOf notices ++ arrivalsOf more :=
  List.filter_append ..

/-- The same notices, and what has arrived in the same order. -/
structure Reordered (notices other : List Notice) : Prop where
  perm : notices.Perm other
  arrivals : arrivalsOf notices = arrivalsOf other

namespace Reordered

variable {a b c d : List Notice}

protected theorem refl (a : List Notice) : Reordered a a := ⟨.refl a, rfl⟩

theorem trans (h : Reordered a b) (h' : Reordered b c) : Reordered a c :=
  ⟨h.perm.trans h'.perm, h.arrivals.trans h'.arrivals⟩

theorem append (h : Reordered a b) (h' : Reordered c d) : Reordered (a ++ c) (b ++ d) where
  perm := h.perm.append h'.perm
  arrivals := by rw [arrivalsOf_append, arrivalsOf_append, h.arrivals, h'.arrivals]

/-- Changes of the link may be moved behind anything. -/
theorem changes (h : arrivalsOf a = []) (b : List Notice) : Reordered (a ++ b) (b ++ a) where
  perm := List.perm_append_comm
  arrivals := by rw [arrivalsOf_append, arrivalsOf_append, h, List.append_nil, List.nil_append]

end Reordered

/-! ## Counters -/

inductive Counter where
  | packets
  | malformed
  | attempts
  | connections

namespace Counter

def among (stats : LinkStats) (connections : Nat) : Counter → Nat
  | .packets => stats.packetsReceived
  | .malformed => stats.decodeErrors
  | .attempts => stats.connectionAttempts
  | .connections => connections

/-- What a link, and the router at its other end, have counted. -/
def kept (k : Counter) (link : Link) : Nat := k.among link.stats link.router.connections

/-- The notices that an observer would count. -/
def counts : Counter → Notice → Bool
  | .packets, .packet _ => true
  | .malformed, .error (.malformed _) => true
  | .attempts, .state .connecting => true
  | .connections, .state .connected => true
  | _, _ => false

theorem counts_disconnected (k : Counter) : k.counts (.state .disconnected) = false := by
  cases k <;> rfl

theorem counts_closing (k : Counter) : k.counts (.state .closing) = false := by
  cases k <;> rfl

/-- A loss is told twice, as an error and as a state. Neither is among the things that are counted,
so it makes no difference in which order an observer hears of them. -/
theorem counts_lost (k : Counter) (cause : LinkLoss) :
    k.counts (.error (.linkLost cause)) = false := by
  cases k <;> rfl

end Counter

/-! ## Columns -/

/-- What a stretch of a run adds to the books: what each observer is told, what is published, the
notices that are counted, and how many bytes are read. -/
structure Entry where
  told : Nat → List Notice := fun _ => []
  published : List LinkState := []
  counted : List Notice := []
  read : Nat := 0

namespace Entry

def add (e later : Entry) : Entry where
  told o := e.told o ++ later.told o
  published := e.published ++ later.published
  counted := e.counted ++ later.counted
  read := e.read + later.read

/-- An entry whose columns agree. -/
def square (notices : List Notice) (read : Nat) : Entry where
  told _ := notices
  published := statesOf notices
  counted := notices
  read := read

/-- Observers are told some things, and then there is what comes of the calls that they make. -/
def calling (told : Nat → List Notice) (more : List Notice) : Entry where
  told o := told o ++ more
  published := statesOf more
  counted := more

theorem square_add (notices more : List Notice) (read n : Nat) :
    (square notices read).add (square more n) = square (notices ++ more) (read + n) := by
  simp [add, square, statesOf]

end Entry

namespace Link

/-- A stretch of a run, from one link to another, and its entry. A reader that is there at its end
was there before or belongs to a connection that has come about meanwhile. -/
structure Ledger (count : Nat) (entry : Entry) (link after : Link) : Prop where
  events : ∃ events : List LinkEvent, after.events.toList = link.events.toList ++ events ∧
    ∀ o < count, Reordered (heard o events) (entry.told o)
  watched : after.inbox.state = entry.published.foldl Watch.publish link.inbox.state
  counted : ∀ c : Counter, c.kept after = c.kept link + entry.counted.countP c.counts
  received : after.stats.bytesReceived = link.stats.bytesReceived + entry.read
  sent : link.stats.bytesSent ≤ after.stats.bytesSent
  readers : ∀ r ∈ after.readers, r ∈ link.readers ∨
    r.framer = .fresh .routerToHost ∧ link.router.connections < r.connection

namespace Ledger

variable {count : Nat} {entry later : Entry} {a b c : Link}

/-- Connections are counted and never taken back. -/
theorem connections_le (h : Ledger count entry a b) :
    a.router.connections ≤ b.router.connections := by
  have hcounted := h.counted .connections
  simp only [Counter.kept, Counter.among] at hcounted
  omega

/-- **Stretches add up, and so do their entries.** -/
theorem trans (h : Ledger count entry a b) (h' : Ledger count later b c) :
    Ledger count (entry.add later) a c where
  events := by
    obtain ⟨events, hevents, htold⟩ := h.events
    obtain ⟨more, hmore, htold'⟩ := h'.events
    refine ⟨events ++ more, ?_, fun o ho => ?_⟩
    · rw [hmore, hevents, List.append_assoc]
    · rw [heard_append]
      exact (htold o ho).append (htold' o ho)
  watched := by rw [h'.watched, h.watched, Entry.add, List.foldl_append]
  counted k := by rw [h'.counted, h.counted, Entry.add, List.countP_append, Nat.add_assoc]
  received := by rw [h'.received, h.received, Entry.add, Nat.add_assoc]
  sent := Nat.le_trans h.sent h'.sent
  readers r hr := by
    rcases h'.readers r hr with hr | ⟨hfresh, hnew⟩
    · exact h.readers r hr
    · exact .inr ⟨hfresh, Nat.lt_of_le_of_lt h.connections_le hnew⟩

theorem congr (h : Ledger count entry a b)
    (htold : ∀ o < count, Reordered (entry.told o) (later.told o))
    (hpublished : entry.published = later.published)
    (hcounted : ∀ k : Counter, entry.counted.countP k.counts = later.counted.countP k.counts)
    (hread : entry.read = later.read) : Ledger count later a b where
  events := by
    obtain ⟨events, hevents, hheard⟩ := h.events
    exact ⟨events, hevents, fun o ho => (hheard o ho).trans (htold o ho)⟩
  watched := hpublished ▸ h.watched
  counted k := by rw [h.counted, hcounted]
  received := hread ▸ h.received
  sent := h.sent
  readers := h.readers

/-- What is not in the books leaves no entry. -/
theorem nothing (hevents : b.events = a.events) (hwatched : b.inbox.state = a.inbox.state)
    (hstats : b.stats = a.stats) (hconnections : b.router.connections = a.router.connections)
    (hreaders : ∀ r ∈ b.readers, r ∈ a.readers) : Ledger count {} a b where
  events := ⟨[], by rw [hevents]; simp, fun _ _ => .refl _⟩
  watched := hwatched
  counted k := by
    unfold Counter.kept
    rw [hstats, hconnections]
    rfl
  received := by
    rw [hstats]
    rfl
  sent := Nat.le_of_eq (by rw [hstats])
  readers r hr := .inl (hreaders r hr)

theorem record (event : LinkEvent) (link : Link) :
    Ledger count { told := fun o => heard o [event] } link (link.record event) where
  events := ⟨[event], by simp [Link.record], fun _ _ => .refl _⟩
  watched := rfl
  counted _ := rfl
  received := rfl
  sent := Nat.le_refl _
  readers _ hr := .inl hr

theorem publish (state : LinkState) (link : Link) : Ledger count { published := [state] } link
    { link with inbox := { link.inbox with state := link.inbox.state.publish state } } where
  events := ⟨[], by simp, fun _ _ => .refl _⟩
  watched := rfl
  counted _ := rfl
  received := rfl
  sent := Nat.le_refl _
  readers _ hr := .inl hr

/-- To count something is to enter it where it is counted, and the bytes that were read with it. -/
theorem counting {change : LinkStats → LinkStats} {notices : List Notice} {read : Nat} (link : Link)
    (hcounted : ∀ k : Counter, k.kept (link.count change) = k.kept link + notices.countP k.counts)
    (hread : (change link.stats).bytesReceived = link.stats.bytesReceived + read)
    (hsent : (change link.stats).bytesSent = link.stats.bytesSent) :
    Ledger count { counted := notices, read } link (link.count change) where
  events := ⟨[], by simp [Link.count], fun _ _ => .refl _⟩
  watched := rfl
  counted := hcounted
  received := hread
  sent := Nat.le_of_eq hsent.symm
  readers _ hr := .inl hr

theorem reading (h : Ledger count entry a b) {connection : Nat}
    (hnew : a.router.connections < connection) : Ledger count entry a
      { b with
        handle := some connection
        readers := ⟨connection, .fresh .routerToHost⟩ :: b.readers } where
  events := h.events
  watched := h.watched
  counted := h.counted
  received := h.received
  sent := h.sent
  readers r hr := by
    rcases List.mem_cons.mp hr with rfl | hr
    · exact .inr ⟨rfl, hnew⟩
    · exact h.readers r hr

end Ledger

/-! ## Stretches that square -/

/-- In a stretch of a run these notices arrive and so many bytes are read, and its columns agree. -/
def Squares (count : Nat) (arrivals : List Notice) (read : Nat) (link after : Link) : Prop :=
  ∃ notices, arrivalsOf notices = arrivals ∧ Ledger count (.square notices read) link after

namespace Squares

variable {count m n : Nat} {arrivals later : List Notice} {a b c : Link}

theorem of_nothing (h : Ledger count {} a b) : Squares count [] 0 a b := ⟨[], rfl, h⟩

protected theorem refl (link : Link) : Squares count [] 0 link link :=
  of_nothing (.nothing rfl rfl rfl rfl fun _ hr => hr)

/-- What squares in two halves squares as a whole. -/
theorem trans (h : Squares count arrivals m a b) (h' : Squares count later n b c) :
    Squares count (arrivals ++ later) (m + n) a c := by
  obtain ⟨notices, hnotices, hledger⟩ := h
  obtain ⟨more, hmore, hledger'⟩ := h'
  refine ⟨notices ++ more, ?_, ?_⟩
  · rw [arrivalsOf_append, hnotices, hmore]
  · rw [← Entry.square_add]
    exact hledger.trans hledger'

end Squares

/-- Every observer is told some things, and what comes of their calls squares. -/
def Tells (count : Nat) (told : Nat → List Notice) (link after : Link) : Prop :=
  ∃ more, arrivalsOf more = [] ∧ Ledger count (.calling told more) link after

namespace Tells

variable {count : Nat} {told later : Nat → List Notice} {a b c : Link}

/-- Calls that square may be made while observers are being told something, and count as telling
them nothing. -/
theorem of_squares (h : Squares count [] 0 a b) : Tells count (fun _ => []) a b := h

theorem trans (h : Tells count told a b) (h' : Tells count later b c) :
    Tells count (fun o => told o ++ later o) a c := by
  obtain ⟨more, hmore, hledger⟩ := h
  obtain ⟨more', hmore', hledger'⟩ := h'
  refine ⟨more ++ more', ?_, (hledger.trans hledger').congr ?_ ?_ (fun _ => rfl) rfl⟩
  · rw [arrivalsOf_append, hmore, hmore']
    rfl
  · -- What came of the first calls was heard before the second thing was told.
    intro o _
    have hswapped := (Reordered.refl (told o)).append (.changes hmore (later o))
    have hmoved := hswapped.append (.refl more')
    simpa [Entry.add, Entry.calling] using hmoved
  · exact (List.filterMap_append ..).symm

theorem congr (h : Tells count told a b) (hsame : ∀ o < count, told o = later o) :
    Tells count later a b := by
  obtain ⟨more, hmore, hledger⟩ := h
  refine ⟨more, hmore, hledger.congr (fun o ho => ?_) rfl (fun _ => rfl) rfl⟩
  show Reordered (told o ++ more) (later o ++ more)
  rw [hsame o ho]
  exact .refl _

end Tells
end Link

/-- A way of telling that tells every observer what it is to tell, whatever comes of their calls. -/
structure Tell.Fair (tell : Tell) (count : Nat) : Prop where
  tells : ∀ notices link, Link.Tells count (fun _ => notices) link (tell notices link)
  /-- A link that is being connected cannot be talked out of it. -/
  connecting : ∀ notices link, link.state = .connecting → (tell notices link).state = .connecting

namespace Link

section Operations

variable {tell : Tell} {count : Nat} (htell : tell.Fair count)
include htell

/-- What is counted and published before it is told squares when it has been told. -/
theorem squares_tell (notices : List Notice) {read : Nat} {before link : Link}
    (h : Ledger count { published := statesOf notices, counted := notices, read } before link) :
    Squares count (arrivalsOf notices) read before (tell notices link) := by
  obtain ⟨more, hmore, hledger⟩ := htell.tells notices link
  refine ⟨notices ++ more, ?_, (h.trans hledger).congr ?_ ?_ ?_ ?_⟩
  · rw [arrivalsOf_append, hmore, List.append_nil]
  · exact fun _ _ => .refl _
  · exact (List.filterMap_append ..).symm
  · exact fun _ => rfl
  · rfl

/-- A state that nobody counts may be published at any time. -/
theorem squares_publish {state : LinkState}
    (hstate : ∀ k : Counter, k.counts (.state state) = false) (link : Link) :
    Squares count [] 0 link (publish tell state link) := by
  apply squares_tell htell [.state state]
  refine (Ledger.publish state link).congr (fun _ _ => .refl _) ?_ ?_ ?_
  · rfl
  · intro k
    simp [hstate k]
  · rfl

/-- A link that is down already says nothing more of it. -/
theorem squares_disconnect (link : Link) :
    Squares count [] 0 link (enter tell .disconnected link) := by
  unfold enter
  split
  · exact .refl link
  · have hentered : Ledger count {} link { link with state := .disconnected } :=
      .nothing rfl rfl rfl rfl fun _ hr => hr
    exact (Squares.of_nothing hentered).trans
      (squares_publish htell Counter.counts_disconnected _)

omit htell in
theorem ledger_stopReader (connection : Nat) (link : Link) :
    Ledger count {} link (link.stopReader connection) :=
  .nothing rfl rfl rfl rfl fun _ hr => (List.mem_filter.mp hr).1

omit htell in
/-- To forget a reader that has been stopped is not in the books. -/
theorem ledger_reap (link : Link) : Ledger count {} link link.reap := by
  unfold reap
  split
  · exact .nothing rfl rfl rfl rfl fun _ hr => hr
  · exact .nothing rfl rfl rfl rfl fun _ hr => (List.mem_filter.mp hr).1

omit htell in
theorem state_reap (link : Link) : link.reap.state = link.state := by
  unfold reap
  split <;> rfl

/-- The state is changed before the loss is told. An observer that calls the link from inside the
news finds it down, and what it sets off squares by itself. -/
theorem squares_breakDown (cause : LinkLoss) (link : Link) :
    Squares count [] 0 link (breakDown tell cause link) := by
  unfold breakDown
  split
  · exact .refl link
  · refine (squares_tell htell [.error (.linkLost cause)] ?_).trans
      (squares_publish htell Counter.counts_disconnected _)
    have hdown : Ledger count {} link { link with state := .disconnected, hasWriter := false } :=
      .nothing rfl rfl rfl rfl fun _ hr => hr
    refine hdown.congr (fun _ _ => .refl _) rfl (fun k => ?_) rfl
    simp [k.counts_lost]

/-- A loss comes to nothing if another failure was first. -/
theorem squares_lose (cause : LinkLoss) (link : Link) :
    Squares count [] 0 link (lose tell cause link) := by
  unfold lose
  split
  · exact squares_breakDown htell cause link
  · split
    · exact (Squares.of_nothing (ledger_stopReader _ link)).trans (squares_breakDown htell cause _)
    · exact .refl link

theorem squares_endReader (connection : Nat) (cause : LinkLoss) (link : Link) :
    Squares count [] 0 link (endReader tell connection cause link) := by
  unfold endReader
  split
  · exact (squares_lose htell cause link).trans (.of_nothing (ledger_stopReader connection _))
  · exact .refl link

theorem squares_send (bytes : Bytes) (failure : Option String) (link : Link) :
    Squares count [] 0 link (send tell bytes failure link).2 := by
  unfold send
  split
  · exact .refl link
  split
  · exact .refl link
  split
  · exact squares_lose htell _ link
  · refine .of_nothing ?_
    exact {
      events := ⟨[], by simp [Link.count], fun _ _ => .refl _⟩
      watched := rfl
      counted := fun k => by cases k <;> rfl
      received := rfl
      sent := Nat.le_add_right _ _
      readers := fun _ hr => .inl hr }

theorem squares_close (link : Link) : Squares count [] 0 link (close tell link) := by
  unfold close
  split
  · exact .refl link
  · have hclosing : Ledger count {} link { link with state := .closing, closing := true } :=
      .nothing rfl rfl rfl rfl fun _ hr => hr
    have hpublished := squares_publish htell Counter.counts_closing
      { link with state := .closing, closing := true }
    generalize publish tell .closing { link with state := .closing, closing := true } = told
      at hpublished
    have hwriter : Ledger count {} told { told with hasWriter := false } :=
      .nothing rfl rfl rfl rfl fun _ hr => hr
    have hclosed (down : Link) : Ledger count {} down { down with closing := false } :=
      .nothing rfl rfl rfl rfl fun _ hr => hr
    have hdropped := (Squares.of_nothing hwriter).trans (.of_nothing (ledger_reap _))
    exact (((Squares.of_nothing hclosing).trans hpublished).trans hdropped).trans
      ((squares_disconnect htell _).trans (.of_nothing (hclosed _)))

/-- The attempt is made known first and counted when all have been told. Nobody can call it off. -/
theorem squares_dial (link : Link) :
    let dialled := (reap (publish tell .connecting { link with state := .connecting })).count
      fun s => { s with connectionAttempts := s.connectionAttempts + 1 }
    Squares count [] 0 link dialled ∧ dialled.state = .connecting := by
  intro dialled
  have hbegun : Ledger count {} link { link with state := .connecting } :=
    .nothing rfl rfl rfl rfl fun _ hr => hr
  have hpublished : Ledger count _ _ _ :=
    Ledger.publish .connecting { link with state := .connecting }
  obtain ⟨more, hmore, htold⟩ := htell.tells [.state .connecting]
    { link with
      state := .connecting
      inbox := { link.inbox with state := link.inbox.state.publish .connecting } }
  have hcounted (middle : Link) : Ledger count { counted := [.state .connecting] } middle
      (middle.count fun s => { s with connectionAttempts := s.connectionAttempts + 1 }) :=
    .counting middle (fun k => by cases k <;> rfl) rfl rfl
  -- The attempt is counted after it was told; added up, the entries come to nothing.
  have hannounced := (hbegun.trans hpublished).trans htold
  have hdialled := (hannounced.trans (ledger_reap _)).trans (hcounted _)
  refine ⟨⟨.state .connecting :: more, ?_, hdialled.congr ?_ ?_ ?_ ?_⟩, ?_⟩
  · show arrivalsOf ([.state .connecting] ++ more) = []
    rw [arrivalsOf_append, hmore]
    rfl
  · intro o _
    simp [Entry.add, Entry.calling, Entry.square, Reordered.refl]
  · simp [Entry.add, Entry.calling, Entry.square, statesOf, Notice.state?]
  · intro k
    simp [Entry.add, Entry.calling, Entry.square, List.countP_cons]
  · rfl
  · exact (state_reap _).trans (htell.connecting _ _ rfl)

/-- A reader may be started at the end of a stretch in which its connection has come about. -/
theorem squares_startReader {before link : Link} {arrivals : List Notice} {read connection : Nat}
    (h : Squares count arrivals read before link)
    (hnew : before.router.connections < connection) :
    Squares count arrivals read before (startReader tell connection link) := by
  obtain ⟨notices, hnotices, hledger⟩ := h
  have hreading : Squares count arrivals read before _ :=
    ⟨notices, hnotices, hledger.reading hnew⟩
  unfold startReader
  dsimp only
  split
  · exact hreading
  · rw [← List.append_nil arrivals]
    exact hreading.trans (squares_endReader htell _ _ _)

/-- The router has counted the connection before anyone is told of it. -/
theorem squares_accept {link : Link} (hstate : link.state = .connecting) :
    Squares count [] 0 link (startReader tell link.router.accept.connections
      (enter tell .connected { link with router := link.router.accept, hasWriter := true })) := by
  have haccepted : Ledger count { counted := [.state .connected] } link
      { link with router := link.router.accept, hasWriter := true, state := .connected } :=
    { events := ⟨[], by simp, fun _ _ => .refl _⟩
      watched := rfl
      counted := fun k => by cases k <;> rfl
      received := rfl
      sent := Nat.le_refl _
      readers := fun _ hr => .inl hr }
  have hchanges : link.state ≠ .connected := by simp [hstate]
  rw [enter, if_neg hchanges]
  apply squares_startReader htell _ (Nat.lt_succ_self _)
  exact squares_tell htell [.state .connected]
    (haccepted.trans (Ledger.publish .connected _))

/-- `inside` may be anything that squares and leaves the link connecting. -/
theorem squares_connectWhile {inside : Link → Link}
    (hinside : ∀ link, Squares count [] 0 link (inside link))
    (hconnecting : ∀ link, link.state = .connecting → (inside link).state = .connecting)
    (link : Link) : Squares count [] 0 link (connectWhile tell inside link).2 := by
  obtain ⟨hdial, hstate⟩ := squares_dial htell link
  have hcame := hdial.trans (hinside _)
  have hdown := hcame.trans (squares_disconnect htell _)
  have hup := hcame.trans (squares_accept htell (hconnecting _ hstate))
  unfold connectWhile
  split
  · exact .refl link
  · cases link.state with
    | connected | connecting => exact .refl link
    | disconnected | closing =>
      simp only
      split
      · exact hdown
      · exact hup

end Operations

/-! ## Calls -/

section Calls

variable {tell : Tell} {count : Nat}

/-- Calls leave a link that is being connected to be connected. -/
theorem state_performAll (note : CallRecord → LinkEvent) (calls : List Call) {link : Link}
    (h : link.state = .connecting) : (performAll tell note calls link).state = .connecting := by
  induction calls generalizing link with
  | nil => exact h
  | cons call calls ih =>
    rw [performAll, perform_connecting h]
    exact ih h

mutual

/-- **Every call squares, whatever is called from inside it.** A call may hold others, so this goes
by the call together with the lists of calls. -/
theorem squares_perform (htell : tell.Fair count) (link : Link) :
    (call : Call) → Squares count [] 0 link (perform tell call link).2
  | .connect during => by
    rw [perform]
    exact squares_connectWhile htell
      (fun link => squares_performAll htell (fun _ _ => rfl) link during)
      (fun _ h => state_performAll _ during h) link
  | .close => by
    rw [perform]
    exact squares_close htell link
  | .send bytes failure => by
    rw [perform]
    exact squares_send htell bytes failure link
  | .state => by
    rw [perform]
    exact .refl link

/-- The calls are made one after the other, and a note is taken of each that nobody hears of. -/
theorem squares_performAll (htell : tell.Fair count) {note : CallRecord → LinkEvent}
    (hnote : ∀ r o, heard o [note r] = []) (link : Link) :
    (calls : List Call) → Squares count [] 0 link (performAll tell note calls link)
  | [] => by
    rw [performAll]
    exact .refl link
  | call :: calls => by
    have hcall := squares_perform htell link call
    rw [performAll]
    have hrecord (r : CallRecord) (after : Link) :
        Squares count [] 0 after (after.record (note r)) := by
      refine .of_nothing ((Ledger.record _ _).congr (fun o _ => ?_) rfl (fun _ => rfl) rfl)
      show Reordered (heard o [note r]) []
      rw [hnote]
      exact .refl _
    generalize perform tell call link = result at hcall
    obtain ⟨answer, after⟩ := result
    exact (hcall.trans (hrecord _ after)).trans (squares_performAll htell hnote _ calls)

end

end Calls

end Link
end SensorLink
