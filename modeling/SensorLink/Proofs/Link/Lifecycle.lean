import SensorLink.Proofs.Link.Prompt

/-!
# The life of a link

A link changes its state in `connect`, in `close`, in `send` and in its reader, and any of these can
stand inside another: a packet that is being dispatched may make an observer close the link, and the
failure of a write may break it in the middle of a piece. `Lifecycle` is what holds all the same,
between any two things that are done to it:

> **the link is down or up, and whoever listens to it can tell which** (`lifecycle`): the states
> that an observer hears of follow the edges of a link, a loss is reported once for each time that
> the link breaks and just before the news of it, and a frame is written exactly if the link is up
> and takes it.

For the calls that are made from inside, the records tell how they found the link. An observer finds
it down or up as anybody does. Whoever calls while the router is being connected finds it
connecting; such a call is answered and leaves no other trace (`connect_held`).
-/

namespace SensorLink

/-- Whether an observer was told something. -/
def LinkEvent.isTold : LinkEvent → Bool
  | .told .. => true
  | _ => false

namespace Link

/-- A link without the records of the calls that were made from inside others. -/
def unrecorded (link : Link) : Link :=
  { link with events := (link.events.toList.filter LinkEvent.isTold).toArray }

theorem unrecorded_recordAll (link : Link) (events : List LinkEvent) :
    (link.recordAll events).unrecorded =
      link.unrecorded.recordAll (events.filter LinkEvent.isTold) := by
  unfold unrecorded recordAll
  congr 1
  simp

theorem filter_dialled (count : Nat) (during : List Call) (state : LinkState) :
    (dialled count during state).filter LinkEvent.isTold =
      (dialled count [] state).filter LinkEvent.isTold := by
  have hheld : (during.map fun call => LinkEvent.duringConnect (CallRecord.held call)).filter
      LinkEvent.isTold = [] := by
    rw [List.filter_eq_nil_iff]
    intro event he
    obtain ⟨call, -, rfl⟩ := List.mem_map.mp he
    exact Bool.false_ne_true
  simp only [dialled, List.filter_append, hheld, List.map_nil, List.filter_nil]

/-- **What is called while the router is being connected leaves no trace but its record.** -/
theorem connect_held {tell : Tell} {count : Nat} (htell : tell.Announces count) {link : Link}
    (h : link.Settled) (during : List Call) :
    (connect tell during link).1 = (connect tell [] link).1 ∧
      (connect tell during link).2.unrecorded = (connect tell [] link).2.unrecorded := by
  unfold connect
  rcases h with hdown | ⟨framer, hup⟩
  · rw [connect_down htell hdown, connect_down htell hdown]
    split
    · refine ⟨rfl, ?_⟩
      rw [unrecorded_recordAll, unrecorded_recordAll, filter_dialled]
    · refine ⟨rfl, ?_⟩
      rw [unrecorded_recordAll, unrecorded_recordAll, filter_dialled]
  · rw [connect_up hup, connect_up hup]
    exact ⟨rfl, rfl⟩

/-- What holds of a link between two things that are done to it, and of all that its observers have
been told until then. -/
structure Lifecycle (tell : Tell) (count : Nat) (link : Link) : Prop where
  state : link.state = .disconnected ∨ link.state = .connected
  hasWriter : link.hasWriter = true ↔ link.state = .connected
  edges : ∀ o < count,
    (.disconnected :: statesOf (heard o link.events.toList)).IsChain LinkState.Edge
  believed : ∀ o < count, believed .disconnected (heard o link.events.toList) = link.state
  lost : ∀ o < count, ∀ before cause after,
    heard o link.events.toList = before ++ .error (.linkLost cause) :: after →
      SensorLink.believed .disconnected before = .connected ∧
        ∃ later, after = .state .disconnected :: later
  direct : ∀ o < count, ∀ before after,
    heard o link.events.toList = before ++ .state .disconnected :: after →
      SensorLink.believed .disconnected before = .connected →
        ∃ front cause, before = front ++ [.error (.linkLost cause)]
  sent : ∀ bytes failure, (send tell bytes failure link).1 = true ↔
    link.state = .connected ∧ (bytes = [] ∨ failure = none)
  fromObserver : ∀ r, .fromObserver r ∈ link.events.toList → r.Settled
  duringConnect : ∀ r, .duringConnect r ∈ link.events.toList → r.Held
  held : ∀ during, (connect tell during link).1 = (connect tell [] link).1 ∧
    (connect tell during link).2.unrecorded = (connect tell [] link).2.unrecorded

theorem Chronicle.toLifecycle {observers : Observers} (hdiscreet : observers.Discreet) (depth : Nat)
    {link : Link} (h : link.Chronicle observers) :
    Lifecycle (observers.tell depth) observers.count link where
  state := h.settled.state
  hasWriter := h.settled.hasWriter
  edges := fun o ho => (h.account o ho).isChain
  believed := fun o ho => (h.account o ho).believed_eq
  lost := fun o ho _ _ _ hsplit => (h.account o ho).lost hsplit
  direct := fun o ho _ _ hsplit => (h.account o ho).direct hsplit
  sent := send_eq_true_iff h.settled
  fromObserver := fun _ hr => h.lawful _ hr
  duringConnect := fun _ hr => h.lawful _ hr
  held := connect_held (Observers.announces_tell hdiscreet depth) h.settled

/-- **The life of a link**, whatever is done to it and whatever its observers call from inside the
callbacks for what has arrived; be it read in the course of a line, or promptly. -/
theorem lifecycle {observers : Observers} (h : observers.Discreet) (depth : Nat)
    (moves : List Line.Move) :
    let tell := observers.tell depth
    Lifecycle tell observers.count (Line.run tell moves {}).link ∧
      Lifecycle tell observers.count (moves.foldl (undergo tell) {}) := by
  intro tell
  have hrun (moves : List Line.Move) :
      Lifecycle tell observers.count (Line.run tell moves {}).link :=
    (Line.balanced_run h depth Line.balanced_start moves).chronicle.toLifecycle h depth
  refine ⟨hrun moves, ?_⟩
  obtain ⟨schedule, hschedule⟩ := Line.exists_run h depth moves
  rw [← hschedule]
  exact hrun schedule

/-- Two observers at odds: on each packet the first breaks the link and connects it again, with
calls that come too early, and the second closes it. -/
def restless : Observers where
  count := 2
  react := fun _ observer notice =>
    match observer, notice with
    | 0, .packet _ =>
      [.send [0x00] (some "gone"), .connect [.connect [], .close, .send [0x00], .state]]
    | _, .packet _ => [.close]
    | _, _ => []

/-- Two packets in one piece: the second is dispatched after the connection is long gone. -/
theorem lifecycle_restless :
    let answer : Bytes := [0x01, 0x03, 0x00, 0x00, 0x00, 0x00, 0x01]
    let moves : List Line.Move :=
      [.call (.connect []), .inject (answer ++ answer), .read, .hangUp, .read]
    let tell := restless.tell 1
    restless.Discreet ∧
    statesOf (heard 1 (Line.run tell moves {}).link.events.toList) =
      [.connecting, .connected, .disconnected, .connecting, .connected, .closing, .disconnected,
        .connecting, .connected, .closing, .disconnected] ∧
    Lifecycle tell restless.count (Line.run tell moves {}).link ∧
    Lifecycle tell restless.count (moves.foldl (undergo tell) {}) := by
  intro answer moves tell
  have h : restless.Discreet := by
    intro history observer notice hchange
    cases notice with
    | packet p => cases hchange
    | state s | frame raw | error e => rcases observer with _ | _ <;> rfl
  exact ⟨h, by decide +kernel, lifecycle h 1 moves⟩

end Link
end SensorLink
