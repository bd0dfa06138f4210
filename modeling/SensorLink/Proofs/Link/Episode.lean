import SensorLink.Proofs.Link.Account

/-!
# Episodes in the life of a link

Between two things that are done to it, a link is `Settled`: it is down and has neither writer nor
reader, or it is up and has both, the reader being the one of its latest connection. An `Episode`
leads from one settled link to the next and says what happened on the way: every event that was
noted, what each observer was told and what the subscribers were sent. Episodes compose
(`Episode.trans`), so it is enough to know the episodes of the single operations:

> **every call that is made on a settled link is an episode, on which nothing arrives**
> (`episode_perform`), and so is every sequence of calls (`episode_performAll`).

All of this is for a way of telling that merely notes changes of the link, which is what observers
come to that make their calls from inside the callbacks for what has arrived. An operation on such a
link can then be written as an equation, however many calls stand inside one another: whatever is
called while the router is being connected finds the link connecting and leaves it as it is
(`perform_connecting`).
-/

namespace SensorLink

/-! ## Calls that are made inside others -/

/-- What a call answers while the router is being connected. -/
def Call.answerWhileConnecting : Call → Answer
  | .connect _ => .connected (.error .alreadyConnecting)
  | .close => .closed
  | .send .. => .sent false
  | .state => .state .connecting

namespace CallRecord

/-- A call that was made while the router was being connected: it has no effect. -/
structure Held (r : CallRecord) : Prop where
  state : r.state = .connecting
  hasWriter : r.hasWriter = false
  answer : r.answer = r.call.answerWhileConnecting

/-- A call that an observer made: it finds the link down or up. -/
structure Settled (r : CallRecord) : Prop where
  state : r.state = .disconnected ∨ r.state = .connected
  hasWriter : r.hasWriter = true ↔ r.state = .connected
  sent : ∀ bytes failure, r.call = .send bytes failure →
    (r.answer = .sent true ↔ r.state = .connected ∧ (bytes = [] ∨ failure = none))

end CallRecord

/-- What holds of everything that happens, where a link may be lost to these causes only. -/
def LinkEvent.Lawful (causes : LinkLoss → Prop) : LinkEvent → Prop
  | .told _ (.error (.linkLost cause)) => causes cause
  | .told .. => True
  | .duringConnect r => r.Held
  | .fromObserver r => r.Settled

theorem LinkEvent.Lawful.mono {causes causes' : LinkLoss → Prop} {event : LinkEvent}
    (h : event.Lawful causes) (himp : ∀ cause, causes cause → causes' cause) :
    event.Lawful causes' := by
  unfold Lawful at h ⊢
  split
  · exact himp _ h
  · trivial
  · exact h
  · exact h

/-- To announce a loss, its cause has to be one of those that there are. -/
theorem LinkEvent.lawful_announcement {causes : LinkLoss → Prop} {count : Nat} {notice : Notice}
    (h : ∀ cause, notice = .error (.linkLost cause) → causes cause) :
    ∀ event ∈ announcement count [notice], event.Lawful causes := by
  intro event he
  obtain ⟨o, n, hn, rfl⟩ := told_of_mem_announcement he
  rw [List.mem_singleton.mp hn]
  unfold Lawful
  split
  · rename_i heq
    cases heq
    exact h _ rfl
  · trivial
  · rename_i heq
    cases heq
  · rename_i heq
    cases heq

/-- The one way in which a call loses a link. -/
def LinkLoss.OfWrite (cause : LinkLoss) : Prop := ∃ reason, cause = .writeFailed reason

namespace Link

/-! ## Settled links -/

structure Down (link : Link) : Prop where
  state : link.state = .disconnected
  hasWriter : link.hasWriter = false
  readers : link.readers = []
  closing : link.closing = false

structure Up (framer : Framer) (link : Link) : Prop where
  state : link.state = .connected
  hasWriter : link.hasWriter = true
  readers : link.readers = [⟨link.router.connections, framer⟩]
  handle : link.handle = some link.router.connections
  closing : link.closing = false

def Settled (link : Link) : Prop := link.Down ∨ ∃ framer, link.Up framer

namespace Settled

variable {link : Link}

theorem state (h : link.Settled) : link.state = .disconnected ∨ link.state = .connected :=
  h.imp Down.state fun ⟨_, hup⟩ => hup.state

/-- The writer and the state go together while nothing is being done to the link, so the two checks
of a send come out alike. -/
theorem hasWriter (h : link.Settled) : link.hasWriter = true ↔ link.state = .connected := by
  rcases h with hdown | ⟨framer, hup⟩
  · simp [hdown.hasWriter, hdown.state]
  · simp [hup.hasWriter, hup.state]

/-- Only the latest connection has a reader. -/
theorem connection_eq (h : link.Settled) {r : LinkReader} (hr : r ∈ link.readers) :
    r.connection = link.router.connections := by
  rcases h with hdown | ⟨framer, hup⟩
  · simp [hdown.readers] at hr
  · rw [hup.readers, List.mem_singleton] at hr
    rw [hr]

/-- What can be read is read by the reader of the latest connection, and the link is up. -/
theorem isReading (h : link.Settled) {connection : Nat}
    (hreading : link.isReading connection = true) :
    connection = link.router.connections ∧ ∃ framer, link.Up framer := by
  obtain ⟨r, hr, hconnection⟩ := List.any_eq_true.mp hreading
  refine ⟨by rw [← h.connection_eq hr, of_decide_eq_true hconnection], ?_⟩
  rcases h with hdown | hup
  · simp [hdown.readers] at hr
  · exact hup

theorem of_eq {link' : Link} (h : link.Settled) (hstate : link'.state = link.state)
    (hwriter : link'.hasWriter = link.hasWriter) (hreaders : link'.readers = link.readers)
    (hhandle : link'.handle = link.handle) (hclosing : link'.closing = link.closing)
    (hconnections : link'.router.connections = link.router.connections) : link'.Settled := by
  rcases h with hdown | ⟨framer, hup⟩
  · exact .inl ⟨hstate.trans hdown.state, hwriter.trans hdown.hasWriter,
      hreaders.trans hdown.readers, hclosing.trans hdown.closing⟩
  · refine .inr ⟨framer, hstate.trans hup.state, hwriter.trans hup.hasWriter, ?_, ?_,
      hclosing.trans hup.closing⟩
    · rw [hreaders, hconnections, hup.readers]
    · rw [hhandle, hconnections, hup.handle]

theorem recordAll (h : link.Settled) {events : List LinkEvent} : (link.recordAll events).Settled :=
  h.of_eq rfl rfl rfl rfl rfl rfl

theorem count (h : link.Settled) {change : LinkStats → LinkStats} : (link.count change).Settled :=
  h.of_eq rfl rfl rfl rfl rfl rfl

end Settled

theorem Up.isReading {link : Link} {framer : Framer} (h : link.Up framer) :
    link.isReading link.router.connections = true := by
  simp [Link.isReading, h.readers]

/-! ## Operations as equations -/

section Equations

variable {tell : Tell} {count : Nat}

/-- If telling only makes notes, to publish is to set the watched state and to make the notes. -/
theorem publish_eq (htell : tell.Announces count) (state : LinkState) (link : Link) :
    publish tell state link =
      ({ link with inbox := { link.inbox with state := link.inbox.state.publish state } }).recordAll
        (announcement count [.state state]) :=
  htell _ _ (by simp [Notice.isChange])

theorem enter_eq (htell : tell.Announces count) {state : LinkState} {link : Link}
    (h : link.state ≠ state) :
    enter tell state link =
      ({ link with state, inbox.state := link.inbox.state.publish state }).recordAll
        (announcement count [.state state]) := by
  rw [enter, if_neg h, publish_eq htell]

/-- What a failure leaves of a link that was up. -/
def lost (link : Link) : Link :=
  { link with
    state := .disconnected, hasWriter := false, readers := []
    inbox.state := link.inbox.state.publish .disconnected }

/-- What a close leaves of a link that was up. -/
def closed (link : Link) : Link :=
  { link with
    state := .disconnected, hasWriter := false, readers := [], handle := none
    inbox.state := (link.inbox.state.publish .closing).publish .disconnected }

/-- The loss of a link that is up: all is gone but the handle, which the next attempt to connect
will forget. -/
theorem lose_up (htell : tell.Announces count) {framer : Framer} {link : Link}
    (h : link.Up framer) (cause : LinkLoss) :
    lose tell cause link = link.lost.recordAll (announcement count [.error (.linkLost cause)] ++
      announcement count [.state .disconnected]) := by
  have hlost (link : Link) : tell [.error (.linkLost cause)] link =
      link.recordAll (announcement count [.error (.linkLost cause)]) :=
    htell _ _ (by simp [Notice.isChange])
  have hreading := h.isReading
  simp only [lose, h.handle, hreading, if_true, breakDown, stopReader, h.state, h.readers,
    publish_eq htell, hlost]
  simp [recordAll, lost, append_toList_append, h.handle]

/-- A link is not lost twice. -/
theorem lose_down {link : Link} (h : link.Down) (cause : LinkLoss) :
    lose tell cause link = link := by
  unfold lose
  split
  · rw [breakDown, if_pos (by simp [h.state])]
  · rw [if_neg (by simp [Link.isReading, h.readers])]

theorem close_up (htell : tell.Announces count) {framer : Framer} {link : Link}
    (h : link.Up framer) :
    close tell link = link.closed.recordAll
      (announcement count [.state .closing] ++ announcement count [.state .disconnected]) := by
  simp only [close, h.closing, h.state, publish_eq htell, reap, recordAll, h.handle, stopReader,
    h.readers]
  simp [enter_eq htell, recordAll, closed, append_toList_append, h.closing]

theorem close_down {link : Link} (h : link.Down) : close tell link = link := by
  rw [close, if_pos (.inr (by simp [h.state]))]

/-! ### Connecting -/

/-- **A call that finds the link connecting leaves it as it is.** -/
theorem perform_connecting {link : Link} (hstate : link.state = .connecting) (call : Call) :
    perform tell call link = (call.answerWhileConnecting, link) := by
  cases call with
  | connect during =>
    rw [perform, connectWhile]
    simp only [hstate, ite_self]
    rfl
  | close =>
    rw [perform, close, if_pos (.inr (by simp [hstate]))]
    rfl
  | send bytes failure =>
    have hsend : send tell bytes failure link = (false, link) := by
      unfold send
      rw [if_pos (.inl (by simp [hstate]))]
    rw [perform, hsend]
    rfl
  | state =>
    rw [perform, hstate]
    rfl

/-- The record of a call that found the link connecting. -/
def CallRecord.held (call : Call) : CallRecord :=
  { call, state := .connecting, hasWriter := false, answer := call.answerWhileConnecting }

/-- However many calls are made while the router is being connected, all that comes of them is a
note of each. -/
theorem performAll_connecting {link : Link} (hstate : link.state = .connecting)
    (hwriter : link.hasWriter = false) (note : CallRecord → LinkEvent) (calls : List Call) :
    performAll tell note calls link =
      link.recordAll (calls.map fun call => note (CallRecord.held call)) := by
  -- Every call leaves the link connecting for the next.
  induction calls generalizing link with
  | nil => simp [performAll]
  | cons call calls ih =>
    simp only [performAll, perform_connecting hstate, hstate, hwriter, record_eq]
    rw [ih (by exact hstate) (by exact hwriter), recordAll_recordAll]
    rfl

/-- A link that was down while the router is being connected. -/
def dialing (link : Link) : Link :=
  { link with
    state := .connecting, handle := none
    inbox.state := link.inbox.state.publish .connecting
    stats.connectionAttempts := link.stats.connectionAttempts + 1 }

/-- What is left of it when the router refuses. -/
def refused (link : Link) : Link :=
  { link.dialing with
    state := .disconnected
    inbox.state := link.dialing.inbox.state.publish .disconnected }

/-- What becomes of it when the router accepts. -/
def accepted (link : Link) : Link :=
  { link.dialing with
    state := .connected, hasWriter := true
    inbox.state := link.dialing.inbox.state.publish .connected
    router := link.router.accept
    handle := some link.router.accept.connections
    readers := [⟨link.router.accept.connections, .fresh .routerToHost⟩] }

/-- What is noted of an attempt to connect that ends in a state. -/
def dialled (count : Nat) (during : List Call) (state : LinkState) : List LinkEvent :=
  announcement count [.state .connecting] ++
    (during.map fun call => .duringConnect (CallRecord.held call)) ++
    announcement count [.state state]

/-- An attempt to connect is over when it has ended in a state, and the notes of it are the same but
for that state. -/
theorem connect_down (htell : tell.Announces count) {link : Link} (h : link.Down)
    (during : List Call) :
    connectWhile tell (performAll tell .duringConnect during) link =
      if link.router.refusing then
        (.error (.system .connectionRefused),
          link.refused.recordAll (dialled count during .disconnected))
      else (.ok (), link.accepted.recordAll (dialled count during .connected)) := by
  have hdial : (reap (publish tell .connecting { link with state := .connecting })).count
      (fun s => { s with connectionAttempts := s.connectionAttempts + 1 }) =
        link.dialing.recordAll (announcement count [.state .connecting]) := by
    rw [publish_eq htell]
    cases hhandle : link.handle with
    | none => simp [reap, recordAll, Link.count, dialing]
    | some connection => simp [reap, recordAll, Link.count, dialing, stopReader, h.readers]
  have hopen : ¬ (link.closing = true) := by simp [h.closing]
  -- The link is connecting from here on, so what is called inside only leaves its records.
  unfold connectWhile
  simp only [if_neg hopen, h.state, hdial]
  rw [performAll_connecting rfl (by exact h.hasWriter), recordAll_recordAll]
  cases hrefusing : link.router.refusing with
  | true =>
    simp [recordAll, dialing, hrefusing, enter_eq htell, refused, dialled, append_toList_append]
  | false =>
    simp [recordAll, dialing, hrefusing, enter_eq htell, accepted, dialled, append_toList_append,
      startReader, h.readers]

theorem connect_up {framer : Framer} {link : Link} (h : link.Up framer) (inside : Link → Link) :
    connectWhile tell inside link = (.ok (), link) := by
  simp [connectWhile, h.closing, h.state]

/-! ### Sending -/

theorem send_down {link : Link} (h : link.Down) (bytes : Bytes) (failure : Option String) :
    send tell bytes failure link = (false, link) := by
  unfold send
  rw [if_pos (.inl (by simp [h.state]))]

/-- An empty frame is not offered to the router, so it cannot be refused. -/
theorem send_up {framer : Framer} {link : Link} (h : link.Up framer) (bytes : Bytes)
    (failure : Option String) :
    send tell bytes failure link =
      if bytes = [] then (true, link)
      else
        match failure with
        | some reason => (false, lose tell (.writeFailed reason) link)
        | none => (true, { link with
            router := link.router.write bytes
            stats.bytesSent := link.stats.bytesSent + bytes.length }) := by
  have hready : ¬ (link.state ≠ .connected ∨ ¬ link.hasWriter) := by simp [h.state, h.hasWriter]
  unfold send
  rw [if_neg hready]
  cases bytes <;> rfl

/-- **A frame is written exactly if the link is up and takes it.** -/
theorem send_eq_true_iff {link : Link} (h : link.Settled) (bytes : Bytes)
    (failure : Option String) :
    (send tell bytes failure link).1 = true ↔
      link.state = .connected ∧ (bytes = [] ∨ failure = none) := by
  rcases h with hdown | ⟨framer, hup⟩
  · simp [send_down hdown, hdown.state]
  · rw [send_up hup]
    by_cases hbytes : bytes = []
    · simp [hbytes, hup.state]
    · cases failure with
      | none => simp [hbytes, hup.state]
      | some reason => simp [hbytes]

end Equations

/-! ## Episodes -/

/-- What leads from one settled link to another, with the events that were noted and what the
subscribers were sent. -/
structure Passage (observers : Observers) (causes : LinkLoss → Prop) (sent : List Packet)
    (before : Link) (events : List LinkEvent) (after : Link) : Prop where
  events_eq : after.events.toList = before.events.toList ++ events
  settled : after.Settled
  account : ∀ o < observers.count, Account before.state (heard o events) after.state
  lawful : ∀ event ∈ events, event.Lawful causes
  packets : after.inbox.packets = sent.foldl Broadcast.send before.inbox.packets
  connections : before.router.connections ≤ after.router.connections
  /-- A reader is the one that there was, or it belongs to a new connection and is fresh. -/
  readers : ∀ r ∈ after.readers, r ∈ before.readers ∨
    before.router.connections < r.connection ∧ r.framer = .fresh .routerToHost

/-- A passage on which each observer was told all of what was found for it. -/
structure Episode (observers : Observers) (causes : LinkLoss → Prop)
    (found : Nat → List FramerEvent) (sent : List Packet) (before : Link)
    (events : List LinkEvent) (after : Link) : Prop extends
    Passage observers causes sent before events after where
  reports : ∀ o < observers.count,
    Reports (observers.QuietAtFrames o) (found o) (heard o events)

section Composition

variable {observers : Observers} {causes : LinkLoss → Prop}

/-- One passage after another is a passage: a reader that is fresh after the second was new in one
of them. -/
theorem Passage.trans {sent sent' : List Packet} {a b c : Link} {events later : List LinkEvent}
    (h : Passage observers causes sent a events b)
    (h' : Passage observers causes sent' b later c) :
    Passage observers causes (sent ++ sent') a (events ++ later) c where
  events_eq := by rw [h'.events_eq, h.events_eq, List.append_assoc]
  settled := h'.settled
  account := fun o ho => by
    rw [heard_append]
    exact (h.account o ho).trans (h'.account o ho)
  lawful := List.forall_mem_append.mpr ⟨h.lawful, h'.lawful⟩
  packets := by rw [h'.packets, h.packets, List.foldl_append]
  connections := Nat.le_trans h.connections h'.connections
  readers := fun r hr => by
    rcases h'.readers r hr with hr | ⟨hnew, hfresh⟩
    · exact h.readers r hr
    · exact .inr ⟨Nat.lt_of_le_of_lt h.connections hnew, hfresh⟩

namespace Episode

theorem trans {found found' : Nat → List FramerEvent} {sent sent' : List Packet} {a b c : Link}
    {events later : List LinkEvent} (h : Episode observers causes found sent a events b)
    (h' : Episode observers causes found' sent' b later c) :
    Episode observers causes (fun o => found o ++ found' o) (sent ++ sent') a (events ++ later)
      c where
  toPassage := h.toPassage.trans h'.toPassage
  reports := fun o ho => by
    rw [heard_append]
    exact (h.reports o ho).trans (h'.reports o ho)

theorem refl {link : Link} (h : link.Settled) :
    Episode observers causes (fun _ => []) [] link [] link where
  events_eq := (List.append_nil _).symm
  settled := h
  account := fun _ _ => .nothing
  lawful := by simp
  packets := rfl
  connections := Nat.le_refl _
  readers := fun _ hr => .inl hr
  reports := fun _ _ => .nothing

theorem congr {found found' : Nat → List FramerEvent} {sent : List Packet} {before after : Link}
    {events : List LinkEvent} (h : Episode observers causes found sent before events after)
    (heq : ∀ o < observers.count, found o = found' o) :
    Episode observers causes found' sent before events after where
  toPassage := h.toPassage
  reports := fun o ho => heq o ho ▸ h.reports o ho

theorem of_count {found : Nat → List FramerEvent} {sent : List Packet} {before after : Link}
    {events : List LinkEvent} {change : LinkStats → LinkStats}
    (h : Episode observers causes found sent (before.count change) events after) :
    Episode observers causes found sent before events after where
  toPassage := ⟨h.events_eq, h.settled, h.account, h.lawful, h.packets, h.connections, h.readers⟩
  reports := h.reports

theorem sends {found : Nat → List FramerEvent} {before after : Link} {events : List LinkEvent}
    (h : Episode observers causes found [] before events after) (p : Packet) :
    Episode observers causes found [p] before events
      { after with inbox.packets := after.inbox.packets.send p } where
  events_eq := h.events_eq
  settled := h.settled.of_eq rfl rfl rfl rfl rfl rfl
  account := h.account
  lawful := h.lawful
  packets := by
    rw [h.packets]
    rfl
  connections := h.connections
  readers := h.readers
  reports := h.reports

theorem of_changes {before middle : Link} {events : List LinkEvent} (notices : List Notice)
    (hevents : middle.events = before.events) (hsettled : middle.Settled)
    (hheard : ∀ o < observers.count, heard o events = notices)
    (hchanges : ∀ n ∈ notices, n.isChange = true)
    (haccount : Account before.state notices middle.state)
    (hlawful : ∀ event ∈ events, event.Lawful causes)
    (hpackets : middle.inbox.packets = before.inbox.packets)
    (hconnections : before.router.connections ≤ middle.router.connections)
    (hreaders : ∀ r ∈ middle.readers, r ∈ before.readers ∨
      before.router.connections < r.connection ∧ r.framer = .fresh .routerToHost) :
    Episode observers causes (fun _ => []) [] before events (middle.recordAll events) where
  events_eq := by simp [recordAll, hevents]
  settled := hsettled.recordAll
  account := fun o ho => by
    rw [hheard o ho]
    exact haccount
  reports := fun o ho => by
    rw [hheard o ho]
    exact .of_changes hchanges
  lawful := hlawful
  packets := hpackets
  connections := hconnections
  readers := hreaders

theorem note {link : Link} (h : link.Settled) {event : LinkEvent} (hlawful : event.Lawful causes)
    (hsilent : ∀ o, heard o [event] = []) :
    Episode observers causes (fun _ => []) [] link [event] (link.record event) := by
  rw [record_eq]
  exact of_changes [] rfl h (fun o _ => hsilent o) (by simp) .nothing (by simpa using hlawful) rfl
    (Nat.le_refl _) fun _ hr => .inl hr

/-- The router does something at its end, on the connection that there is. -/
theorem of_router {link : Link} (h : link.Settled) {router : RouterEnd}
    (hconnections : router.connections = link.router.connections) :
    Episode observers causes (fun _ => []) [] link [] { link with router } where
  events_eq := (List.append_nil _).symm
  settled := h.of_eq rfl rfl rfl rfl rfl hconnections
  account := fun _ _ => .nothing
  lawful := by simp
  packets := rfl
  connections := Nat.le_of_eq hconnections.symm
  readers := fun _ hr => .inl hr
  reports := fun _ _ => .nothing

end Episode
end Composition

/-! ## Calls are episodes -/

theorem lawful_held (calls : List Call) {causes : LinkLoss → Prop} :
    ∀ event ∈ calls.map fun call => LinkEvent.duringConnect (CallRecord.held call),
      event.Lawful causes := by
  intro event he
  obtain ⟨call, -, rfl⟩ := List.mem_map.mp he
  exact ⟨rfl, rfl, rfl⟩

theorem heard_held (o : Nat) (calls : List Call) :
    heard o (calls.map fun call => .duringConnect (CallRecord.held call)) = [] := by
  unfold heard
  rw [List.filterMap_map, List.filterMap_eq_nil_iff]
  intro call _
  rfl

/-- The episode of an attempt to connect a link that was down. -/
theorem Episode.of_dialled {observers : Observers} {causes : LinkLoss → Prop}
    {before middle : Link} (during : List Call) (hdown : before.Down)
    (hevents : middle.events = before.events) (hsettled : middle.Settled)
    (hedge : LinkState.Edge .connecting middle.state)
    (hpackets : middle.inbox.packets = before.inbox.packets)
    (hconnections : before.router.connections ≤ middle.router.connections)
    (hreaders : ∀ r ∈ middle.readers, r ∈ before.readers ∨
      before.router.connections < r.connection ∧ r.framer = .fresh .routerToHost) :
    Episode observers causes (fun _ => []) [] before (dialled observers.count during middle.state)
      (middle.recordAll (dialled observers.count during middle.state)) := by
  refine .of_changes [.state .connecting, .state middle.state] hevents hsettled ?_
    (by simp [Notice.isChange]) ?_ ?_ hpackets hconnections hreaders
  · intro o ho
    simp [dialled, heard_announcement, ho, heard_held]
  · rw [hdown.state]
    exact .moves .begin nofun (.moves hedge nofun .nothing)
  · simp only [dialled, List.forall_mem_append]
    exact ⟨⟨LinkEvent.lawful_announcement nofun, lawful_held during⟩,
      LinkEvent.lawful_announcement nofun⟩

section Calls

variable {tell : Tell} {observers : Observers}

/-- Whoever calls a settled link finds it settled, and is told the truth about a frame. -/
theorem settled_record (tell : Tell) {link : Link} (h : link.Settled) (call : Call) :
    CallRecord.Settled
      { call, state := link.state, hasWriter := link.hasWriter
        answer := (perform tell call link).1 } where
  state := h.state
  hasWriter := h.hasWriter
  sent := by
    rintro bytes failure rfl
    have hsend : (send tell bytes failure link).1 = true ↔ _ := send_eq_true_iff h bytes failure
    rw [← hsend]
    simp [perform]

variable (htell : tell.Announces observers.count)
include htell

/-- The loss of a link is an episode whose only cause is the one that was given. -/
theorem episode_lose {causes : LinkLoss → Prop} {link : Link} (h : link.Settled) {cause : LinkLoss}
    (hcause : causes cause) :
    ∃ events, Episode observers causes (fun _ => []) [] link events (lose tell cause link) := by
  rcases h with hdown | ⟨framer, hup⟩
  · rw [lose_down hdown]
    exact ⟨[], .refl (.inl hdown)⟩
  · rw [lose_up htell hup]
    refine ⟨_, .of_changes [.error (.linkLost cause), .state .disconnected] rfl
      (.inl ⟨rfl, rfl, rfl, hup.closing⟩) ?_ (by simp [Notice.isChange]) ?_ ?_ rfl (Nat.le_refl _)
      (by simp [lost])⟩
    · intro o ho
      simp [heard_announcement, ho]
    · rw [hup.state]
      exact .loses .nothing
    · refine List.forall_mem_append.mpr ⟨LinkEvent.lawful_announcement ?_,
        LinkEvent.lawful_announcement nofun⟩
      intro cause' heq
      cases heq
      exact hcause

theorem episode_close {causes : LinkLoss → Prop} {link : Link} (h : link.Settled) :
    ∃ events, Episode observers causes (fun _ => []) [] link events (close tell link) := by
  rcases h with hdown | ⟨framer, hup⟩
  · rw [close_down hdown]
    exact ⟨[], .refl (.inl hdown)⟩
  · rw [close_up htell hup]
    refine ⟨_, .of_changes [.state .closing, .state .disconnected] rfl
      (.inl ⟨rfl, rfl, rfl, hup.closing⟩) ?_ (by simp [Notice.isChange]) ?_ ?_ rfl (Nat.le_refl _)
      (by simp [closed])⟩
    · intro o ho
      simp [heard_announcement, ho]
    · rw [hup.state]
      exact .moves .closing nofun (.moves .closed nofun .nothing)
    · exact List.forall_mem_append.mpr
        ⟨LinkEvent.lawful_announcement nofun, LinkEvent.lawful_announcement nofun⟩

/-- The one way in which a send ends a connection is that the write fails. -/
theorem episode_send {link : Link} (h : link.Settled) (bytes : Bytes) (failure : Option String) :
    ∃ events, Episode observers LinkLoss.OfWrite (fun _ => []) [] link events
      (send tell bytes failure link).2 := by
  rcases h with hdown | ⟨framer, hup⟩
  · rw [send_down hdown]
    exact ⟨[], .refl (.inl hdown)⟩
  · rw [send_up hup]
    by_cases hbytes : bytes = []
    · rw [if_pos hbytes]
      exact ⟨[], .refl (.inr ⟨framer, hup⟩)⟩
    · rw [if_neg hbytes]
      cases failure with
      | some reason => exact episode_lose htell (.inr ⟨framer, hup⟩) ⟨reason, rfl⟩
      | none =>
        refine ⟨[], ?_⟩
        rw [← recordAll_nil (Prod.snd _)]
        have hsettled : link.Settled := .inr ⟨framer, hup⟩
        exact .of_changes [] rfl (hsettled.of_eq rfl rfl rfl rfl rfl rfl) (fun _ _ => rfl) (by simp)
          .nothing (by simp) rfl (Nat.le_refl _) fun _ hr => .inl hr

/-- Between the two states that are told, nothing that is called has an effect. -/
theorem episode_connect {causes : LinkLoss → Prop} {link : Link} (h : link.Settled)
    (during : List Call) :
    ∃ events, Episode observers causes (fun _ => []) [] link events
      (connectWhile tell (performAll tell .duringConnect during) link).2 := by
  rcases h with hdown | ⟨framer, hup⟩
  · rw [connect_down htell hdown]
    cases hrefusing : link.router.refusing with
    | true =>
      exact ⟨_, .of_dialled during hdown rfl (.inl ⟨rfl, hdown.hasWriter, hdown.readers,
        hdown.closing⟩) .refused rfl (Nat.le_refl _) fun _ hr => .inl hr⟩
    | false =>
      refine ⟨_, .of_dialled during hdown rfl (.inr ⟨_, rfl, rfl, rfl, rfl, hdown.closing⟩)
        .accepted rfl (Nat.le_succ _) fun r hr => ?_⟩
      rw [List.mem_singleton.mp hr]
      exact .inr ⟨Nat.lt_succ_self _, rfl⟩
  · rw [connect_up hup]
    exact ⟨[], .refl (.inr ⟨framer, hup⟩)⟩

/-- **A call on a settled link is an episode**, whatever calls stand inside it. -/
theorem episode_perform {link : Link} (h : link.Settled) (call : Call) :
    ∃ events, Episode observers LinkLoss.OfWrite (fun _ => []) [] link events
      (perform tell call link).2 := by
  cases call with
  | connect during =>
    rw [perform]
    exact episode_connect htell h during
  | close =>
    rw [perform]
    exact episode_close htell h
  | send bytes failure =>
    rw [perform]
    exact episode_send htell h bytes failure
  | state =>
    rw [perform]
    exact ⟨[], .refl h⟩

/-- Each call is made on the settled link that the one before has left. -/
theorem episode_performAll {link : Link} (h : link.Settled) (calls : List Call) :
    ∃ events, Episode observers LinkLoss.OfWrite (fun _ => []) [] link events
      (performAll tell .fromObserver calls link) := by
  induction calls generalizing link with
  | nil =>
    rw [performAll]
    exact ⟨[], .refl h⟩
  | cons call calls ih =>
    obtain ⟨now, hnow⟩ := episode_perform htell h call
    have hlawful : LinkEvent.Lawful LinkLoss.OfWrite (.fromObserver _) := settled_record tell h call
    have hnote : Episode observers LinkLoss.OfWrite (fun _ => []) [] _ [.fromObserver _] _ :=
      .note hnow.settled hlawful fun _ => rfl
    obtain ⟨later, hlater⟩ := ih hnote.settled
    rw [performAll]
    exact ⟨_, (hnow.trans hnote).trans hlater⟩

end Calls
end Link
end SensorLink
