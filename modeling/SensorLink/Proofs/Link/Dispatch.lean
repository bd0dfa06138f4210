import SensorLink.Proofs.Link.Episode

/-!
# Dispatching what has been read

What a framer has found is told to one observer after another, and each of them may make calls
before the next one hears of it. A turn, one observer told one thing, is an episode; the turns make
up what all observers are told, and then the subscribers are sent the packet. So

> **dispatching is an episode on which every observer is told just what was found, and the
> subscribers are sent the packets of it** (`episode_dispatchAll`),

however the observers close, connect or break the link meanwhile. None of that touches the events
that are still to be dispatched: a piece that has been read is dispatched to its end. Only the
reader may be gone by then, and with it the framer and what is left in it (`episode_readPiece`).
-/

namespace SensorLink

/-- What an observer is told of a thing that a framer has found. -/
def FramerEvent.notices : FramerEvent → List Notice
  | .packet p raw => [.frame raw, .packet p]
  | .discarded cause _ => [.error (.malformed cause)]

namespace Link

variable {observers : Observers}

/-! ## One turn -/

theorem Passage.arrives {causes : LinkLoss → Prop} {link : Link} (h : link.Settled) (o : Nat)
    {n : Notice} (hn : n.isChange = false) :
    Passage observers causes [] link [.told o n] (link.record (.told o n)) where
  events_eq := by simp [record]
  settled := by
    rw [record_eq]
    exact h.recordAll
  account := fun o' _ => by
    have hheard := heard_map_told o' o [n]
    rw [List.map_singleton] at hheard
    rw [hheard]
    split
    · exact .arrives hn .nothing
    · exact .nothing
  lawful := by
    intro event he
    rw [List.mem_singleton.mp he]
    unfold LinkEvent.Lawful
    split
    · rename_i heq
      cases heq
      cases hn
    · trivial
    · rename_i heq
      cases heq
    · rename_i heq
      cases heq
  packets := rfl
  connections := Nat.le_refl _
  readers := fun _ hr => .inl hr

/-- A way of making calls that takes a settled link to a settled one. -/
def CallsSettle (observers : Observers) (calls : List Call → Link → Link) : Prop :=
  (∀ link, calls [] link = link) ∧ ∀ requests link, link.Settled →
    ∃ events, Episode observers LinkLoss.OfWrite (fun _ => []) [] link events (calls requests link)

theorem callsSettle_listening : CallsSettle observers fun _ link => link :=
  ⟨fun _ => rfl, fun _ _ h => ⟨[], .refl h⟩⟩

theorem callsSettle_performAll {tell : Tell} (htell : tell.Announces observers.count) :
    CallsSettle observers (performAll tell .fromObserver) :=
  ⟨fun _ => by rw [performAll], fun requests _ h => episode_performAll htell h requests⟩

section Turns

variable {calls : List Call → Link → Link} (hcalls : CallsSettle observers calls)
include hcalls

/-- One observer is told what was found, and makes its calls. Another observer hears of the effects
of these calls only. -/
theorem episode_turn {link : Link} (h : link.Settled) (o : Nat) (event : FramerEvent) :
    ∃ events, Episode observers LinkLoss.OfWrite (fun o' => if o' = o then [event] else []) [] link
      events (event.notices.foldl (fun link n => observers.tellOne calls o n link) link) := by
  cases event with
  | packet p raw =>
    have hframe : Passage observers LinkLoss.OfWrite [] link [.told o (.frame raw)] _ :=
      .arrives h o rfl
    obtain ⟨first, hfirst⟩ := hcalls.2 (observers.react (link.record (.told o (.frame raw))).events
      o (.frame raw)) _ hframe.settled
    have hpacket : Passage observers LinkLoss.OfWrite [] _ [.told o (.packet p)] _ :=
      .arrives hfirst.settled o rfl
    obtain ⟨second, hsecond⟩ := hcalls.2
      (observers.react (Link.record (.told o (.packet p)) _).events o (.packet p)) _
      hpacket.settled
    refine ⟨_, ((hframe.trans hfirst.toPassage).trans hpacket).trans hsecond.toPassage, ?_⟩
    intro o' ho'
    have hchanges := (hfirst.reports o' ho').changes
    have hlast := hsecond.reports o' ho'
    by_cases ho : o' = o
    · subst ho
      have hheard :
          heard o' ([.told o' (.frame raw)] ++ first ++ [.told o' (.packet p)] ++ second) =
            .frame raw :: (heard o' first ++ .packet p :: heard o' second) := by
        simp [heard, LinkEvent.heardBy]
      rw [if_pos rfl, hheard]
      refine .packet p raw hchanges (fun hquiet => ?_) hlast
      -- Without calls nothing happens between the frame and the packet.
      have hnone := hfirst.events_eq
      rw [hquiet, hcalls.1, List.self_eq_append_right] at hnone
      rw [hnone, heard_nil]
    · have hheard : heard o' ([.told o (.frame raw)] ++ first ++ [.told o (.packet p)] ++ second) =
          heard o' first ++ heard o' second := by
        simp [heard, LinkEvent.heardBy, Ne.symm ho]
      rw [if_neg ho, hheard]
      exact (Reports.of_changes hchanges).trans hlast
  | discarded cause dropped =>
    have herror : Passage observers LinkLoss.OfWrite [] link
        [.told o (.error (.malformed cause))] _ :=
      .arrives h o rfl
    obtain ⟨later, hlater⟩ := hcalls.2 (observers.react
      (link.record (.told o (.error (.malformed cause)))).events o (.error (.malformed cause))) _
      herror.settled
    refine ⟨_, herror.trans hlater.toPassage, ?_⟩
    intro o' ho'
    have hlast := hlater.reports o' ho'
    by_cases ho : o' = o
    · subst ho
      have hheard : heard o' ([.told o' (.error (.malformed cause))] ++ later) =
          .error (.malformed cause) :: heard o' later := by
        simp [heard, LinkEvent.heardBy]
      rw [if_pos rfl, hheard]
      exact .discarded cause dropped hlast
    · have hheard : heard o' ([.told o (.error (.malformed cause))] ++ later) = heard o' later := by
        simp [heard, LinkEvent.heardBy, Ne.symm ho]
      rw [if_neg ho, hheard]
      exact hlast

/-- After so many turns, so many observers have been told. -/
theorem episode_turns {link : Link} (h : link.Settled) (event : FramerEvent) (turns : Nat) :
    ∃ events, Episode observers LinkLoss.OfWrite (fun o => if o < turns then [event] else []) []
      link events ((List.range turns).foldl (fun link o =>
        event.notices.foldl (fun link n => observers.tellOne calls o n link) link) link) := by
  induction turns with
  | zero => exact ⟨[], .refl h⟩
  | succ turns ih =>
    obtain ⟨before, hbefore⟩ := ih
    obtain ⟨now, hnow⟩ := episode_turn hcalls hbefore.settled turns event
    rw [List.range_succ, List.foldl_append]
    refine ⟨_, (hbefore.trans hnow).congr fun o _ => ?_⟩
    simpa only [eq_comm] using next_turn o turns [event]

theorem episode_tellAll {link : Link} (h : link.Settled) (event : FramerEvent) :
    ∃ events, Episode observers LinkLoss.OfWrite (fun _ => [event]) [] link events
      (observers.tellAll calls event.notices link) := by
  obtain ⟨events, hevents⟩ := episode_turns hcalls h event observers.count
  exact ⟨events, hevents.congr fun o ho => if_pos ho⟩

end Turns

/-! ## Dispatching -/

section Dispatch

variable (hdiscreet : observers.Discreet) (depth : Nat)
include hdiscreet

theorem episode_tell {link : Link} (h : link.Settled) (event : FramerEvent) :
    ∃ events, Episode observers LinkLoss.OfWrite (fun _ => [event]) [] link events
      (observers.tell depth event.notices link) := by
  cases depth with
  | zero => exact episode_tellAll callsSettle_listening h event
  | succ depth =>
    exact episode_tellAll
      (callsSettle_performAll (Observers.announces_tell hdiscreet depth)) h event

theorem episode_dispatch {link : Link} (h : link.Settled) (event : FramerEvent) :
    ∃ events, Episode observers LinkLoss.OfWrite (fun _ => [event]) (RouterEnd.packetsOf [event])
      link events (dispatch (observers.tell depth) link event) := by
  cases event with
  | packet p raw =>
    have hcounted : (link.count fun s =>
        { s with packetsReceived := s.packetsReceived + 1 }).Settled := h.count
    obtain ⟨events, htold⟩ := episode_tell hdiscreet depth hcounted (.packet p raw)
    exact ⟨events, htold.of_count.sends p⟩
  | discarded cause dropped =>
    have hcounted : (link.count fun s =>
        { s with decodeErrors := s.decodeErrors + 1 }).Settled := h.count
    obtain ⟨events, htold⟩ := episode_tell hdiscreet depth hcounted (.discarded cause dropped)
    exact ⟨events, htold.of_count⟩

/-- **Dispatching tells every observer just what was found, and sends the subscribers the packets
of it.** -/
theorem episode_dispatchAll {link : Link} (h : link.Settled) (found : List FramerEvent) :
    ∃ events, Episode observers LinkLoss.OfWrite (fun _ => found) (RouterEnd.packetsOf found) link
      events (found.foldl (dispatch (observers.tell depth)) link) := by
  induction found generalizing link with
  | nil => exact ⟨[], .refl h⟩
  | cons event found ih =>
    obtain ⟨now, hnow⟩ := episode_dispatch hdiscreet depth h event
    obtain ⟨later, hlater⟩ := ih hnow.settled
    rw [← List.singleton_append, RouterEnd.packetsOf_append]
    exact ⟨_, hnow.trans hlater⟩

/-! ## Reading -/

/-- **A piece that has been read is dispatched to its end**; only the framer may find its reader
gone. -/
theorem episode_readPiece {link : Link} {framer : Framer} (h : link.Up framer) (piece : Bytes) :
    ∃ events middle, Episode observers LinkLoss.OfWrite (fun _ => (framer.push piece).drain.1)
        (RouterEnd.packetsOf (framer.push piece).drain.1) link events middle ∧
      readPiece (observers.tell depth) link.router.connections piece link =
        middle.keepFramer link.router.connections (framer.push piece).drain.2 := by
  have hcounted : (link.count fun s =>
      { s with bytesReceived := s.bytesReceived + piece.length }).Settled :=
    Settled.count (.inr ⟨framer, h⟩)
  obtain ⟨events, hepisode⟩ := episode_dispatchAll hdiscreet depth hcounted
    (framer.push piece).drain.1
  refine ⟨events, _, hepisode.of_count, ?_⟩
  simp [readPiece, h.readers]

end Dispatch

theorem Settled.keepFramer {link : Link} (h : link.Settled) (connection : Nat) (framer : Framer) :
    (link.keepFramer connection framer).Settled := by
  rcases h with hdown | ⟨old, hup⟩
  · exact .inl ⟨hdown.state, hdown.hasWriter, by simp [Link.keepFramer, hdown.readers],
      hdown.closing⟩
  · refine .inr ⟨if link.router.connections = connection then framer else old, hup.state,
      hup.hasWriter, ?_, hup.handle, hup.closing⟩
    simp only [Link.keepFramer, hup.readers, List.map_cons, List.map_nil]
    split <;> rfl

/-- Whether the reader is there or not, its end is the loss of the link. -/
theorem endReader_eq {tell : Tell} (htell : tell.Announces observers.count) {link : Link}
    (h : link.Settled) (cause : LinkLoss) :
    endReader tell link.router.connections cause link = lose tell cause link := by
  rcases h with hdown | ⟨framer, hup⟩
  · rw [endReader, if_neg (by simp [Link.isReading, hdown.readers]), lose_down hdown]
  · rw [endReader, if_pos hup.isReading, lose_up htell hup]
    rfl

end Link
end SensorLink
