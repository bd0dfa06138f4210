import SensorLink.Reply.Stream

/-!
# What a look at a reply stream comes to

`ReplyStream.poll` looks at three things in turn: whether packets were overwritten unread, the
packets that are there, and the state of the link. `Look` is the same said as four cases, each with
all that is known in it, so that whoever argues about a wait splits on what was found there and
not on how it was looked for:

> **every poll is a look, and a look determines the poll** (`look`).

A packet only ever ends a wait because the wait's own rule judged it, and everything in front of it
was passed over (`firstJudged_eq_some`).
-/

namespace SensorLink

namespace Awaited

/-- A wait that returns a reply returns the packet itself. -/
theorem eq_packet_of_judge {awaited : Awaited} {p : Packet} {reply : awaited.Reply}
    (h : awaited.judge p = some (.ok reply)) : p = awaited.packet reply := by
  cases awaited <;> cases p <;> simp only [judge, reduceCtorEq] at h
  case response.downlinkResponse =>
    split at h
    · split at h <;> cases h
      rfl
    · cases h
  case uplink.downlinkResponse => split at h <;> cases h
  case updateAnswer.dfuResponse => cases h; rfl
  case uplink.uplinkNotification | answer.jigInfoResponse | acknowledgement.downlinkResponse =>
    split at h <;> cases h
    rfl

end Awaited

namespace ReplyStream

variable {awaited : Awaited}

/-- What a look finds is the first packet that ends the wait. All packets before it have been looked
at and passed over, so they are counted too. -/
theorem firstJudged_eq_some {packets : List Packet} {outcome : Except Error awaited.Reply}
    {looked : Nat} (h : firstJudged awaited packets = (some outcome, looked)) :
    ∃ before packet after, packets = before ++ packet :: after ∧ looked = before.length + 1 ∧
      (∀ p ∈ before, awaited.judge p = none) ∧ awaited.judge packet = some outcome := by
  induction packets generalizing looked with
  | nil => simp [firstJudged] at h
  | cons packet rest ih =>
    rw [firstJudged] at h
    split at h
    · rename_i found hfound
      cases h
      exact ⟨[], packet, rest, rfl, rfl, by simp, hfound⟩
    · rename_i hnone
      cases hrest : firstJudged awaited rest
      rw [hrest] at h
      cases h
      obtain ⟨before, q, after, hsplit, rfl, hbefore, hjudge⟩ := ih hrest
      refine ⟨packet :: before, q, after, by rw [hsplit]; rfl, rfl, ?_, hjudge⟩
      intro p hp
      rcases List.mem_cons.mp hp with rfl | hp
      · exact hnone
      · exact hbefore p hp

/-- If there is nothing to be found, everything has been looked at. -/
theorem firstJudged_eq_none {packets : List Packet} {looked : Nat}
    (h : firstJudged awaited packets = (none, looked)) :
    looked = packets.length ∧ ∀ p ∈ packets, awaited.judge p = none := by
  induction packets generalizing looked with
  | nil =>
    cases h
    exact ⟨rfl, by simp⟩
  | cons packet rest ih =>
    rw [firstJudged] at h
    split at h
    · cases h
    · rename_i hnone
      cases hrest : firstJudged awaited rest
      rw [hrest] at h
      cases h
      obtain ⟨rfl, hall⟩ := ih hrest
      refine ⟨rfl, fun p hp => ?_⟩
      rcases List.mem_cons.mp hp with rfl | hp
      · exact hnone
      · exact hall p hp

/-- The same from the other end: a packet that is known to be the first to end the wait is what a
look finds. -/
theorem firstJudged_of_getElem? {packets : List Packet} {i : Nat} {packet : Packet}
    {outcome : Except Error awaited.Reply} (hget : packets[i]? = some packet)
    (hjudge : awaited.judge packet = some outcome)
    (hearlier : ∀ j p, j < i → packets[j]? = some p → awaited.judge p = none) :
    firstJudged awaited packets = (some outcome, i + 1) := by
  induction packets generalizing i with
  | nil => cases hget
  | cons first rest ih =>
    rw [firstJudged]
    cases i with
    | zero =>
      cases hget
      rw [hjudge]
    | succ i =>
      have hrest := ih hget fun j p hj => hearlier (j + 1) p (Nat.succ_lt_succ hj)
      rw [hearlier 0 first (Nat.zero_lt_succ i) rfl, hrest]

/-! ## The state of the link -/

theorem pollState_next (inbox : Inbox) (stream : ReplyStream) :
    (pollState inbox stream).2.next = stream.next := by
  unfold pollState
  split
  · rfl
  · rfl
  · split <;> rfl

theorem pollState_error {inbox : Inbox} {stream : ReplyStream} {e : Error}
    (h : (pollState inbox stream).1 = some e) : e = .linkLost .disconnectedWhileWaiting := by
  unfold pollState at h
  split at h
  · cases h
  · cases h
    rfl
  · split at h <;> cases h
    rfl

theorem seen_pollState (inbox : Inbox) (stream : ReplyStream) :
    (pollState inbox stream).2.seen = inbox.state.version := by
  by_cases hseen : stream.seen = inbox.state.version
  · have hstay : (pollState inbox stream).2 = stream := by
      unfold pollState Watch.look
      rw [if_neg (not_not_intro hseen)]
      cases inbox.state.closed <;> rfl
    rw [hstay, hseen]
  · unfold pollState Watch.look
    rw [if_pos hseen]
    simp only
    split <;> rfl

/-- A state that a wait has seen does not end it again; it takes a change, or the end of all
changes. -/
theorem changed_of_pollState_some {inbox : Inbox} {stream : ReplyStream} {e : Error}
    (h : (pollState inbox stream).1 = some e) :
    stream.seen ≠ inbox.state.version ∨ inbox.state.closed = true := by
  by_cases hseen : stream.seen = inbox.state.version
  · refine .inr ?_
    unfold pollState Watch.look at h
    rw [if_neg (not_not_intro hseen)] at h
    cases hclosed : inbox.state.closed with
    | true => rfl
    | false => simp [hclosed] at h
  · exact .inl hseen

theorem pollState_up {inbox : Inbox} {stream : ReplyStream} (hopen : inbox.state.closed = false)
    (hup : inbox.state.value ≠ .disconnected) : (pollState inbox stream).1 = none := by
  unfold pollState Watch.look
  by_cases hseen : stream.seen = inbox.state.version
  · simp only [if_neg (not_not_intro hseen), hopen]
    rfl
  · simp only [if_pos hseen, hopen, if_neg (not_or.mpr ⟨hup, Bool.false_ne_true⟩)]

/-! ## Four cases -/

/-- What is found at a stream, and the stream after that. -/
inductive Look (awaited : Awaited) (inbox : Inbox) (stream : ReplyStream) :
    Option (Except Error awaited.Reply) × ReplyStream → Prop where
  | lagged (h : stream.next < inbox.packets.oldest) :
    Look awaited inbox stream
      (some (.error (.repliesMissed (inbox.packets.oldest - stream.next))),
        { stream with next := inbox.packets.oldest })
  | judged {before after : List Packet} {packet : Packet} {outcome : Except Error awaited.Reply}
      (hkept : inbox.packets.oldest ≤ stream.next)
      (hunread : inbox.packets.unread stream.next = before ++ packet :: after)
      (hbefore : ∀ p ∈ before, awaited.judge p = none)
      (hjudge : awaited.judge packet = some outcome) :
    Look awaited inbox stream
      (some outcome, { stream with next := stream.next + (before.length + 1) })
  | ended (hkept : inbox.packets.oldest ≤ stream.next)
      (hnone : ∀ p ∈ inbox.packets.unread stream.next, awaited.judge p = none)
      (hclosed : inbox.packets.closed = true) :
    Look awaited inbox stream
      (some (.error (.linkLost .streamClosed)),
        { stream with next := stream.next + (inbox.packets.unread stream.next).length })
  | passed (hkept : inbox.packets.oldest ≤ stream.next)
      (hnone : ∀ p ∈ inbox.packets.unread stream.next, awaited.judge p = none)
      (hopen : inbox.packets.closed = false) :
    Look awaited inbox stream
      (let read : ReplyStream :=
        { stream with next := stream.next + (inbox.packets.unread stream.next).length }
       ((pollState inbox read).1.map .error, (pollState inbox read).2))

/-- **One look at an inbox is one of these.** Whatever is proved about waits goes by these cases and
not by the code of `poll`. -/
theorem look (awaited : Awaited) (inbox : Inbox) (stream : ReplyStream) :
    Look awaited inbox stream (poll awaited inbox stream) := by
  unfold poll
  by_cases hlag : stream.next < inbox.packets.oldest
  · simp only [if_pos hlag]
    exact .lagged hlag
  · simp only [if_neg hlag]
    have hkept := Nat.le_of_not_lt hlag
    cases hfirst : firstJudged awaited (inbox.packets.unread stream.next) with
    | mk found looked =>
      cases found with
      | some outcome =>
        obtain ⟨before, packet, after, hunread, rfl, hbefore, hjudge⟩ := firstJudged_eq_some hfirst
        exact .judged hkept hunread hbefore hjudge
      | none =>
        obtain ⟨rfl, hnone⟩ := firstJudged_eq_none hfirst
        cases hclosed : inbox.packets.closed with
        | true => exact .ended hkept hnone hclosed
        | false => exact .passed hkept hnone hclosed

/-- A wait that ends with a reply has found the packet of that reply, and everything in front of it
was passed over. -/
theorem reply_of_poll {awaited : Awaited} {inbox : Inbox} {stream after : ReplyStream}
    {reply : awaited.Reply} (h : poll awaited inbox stream = (some (.ok reply), after)) :
    ∃ before rest, inbox.packets.unread stream.next = before ++ awaited.packet reply :: rest ∧
      (∀ p ∈ before, awaited.judge p = none) ∧
      awaited.judge (awaited.packet reply) = some (.ok reply) ∧
      after.next = stream.next + (before.length + 1) := by
  have hlook := look awaited inbox stream
  rw [h] at hlook
  generalize hx : (some (Except.ok reply), after) = x at hlook
  cases hlook with
  | lagged => cases hx
  | judged _ hunread hbefore hjudge =>
    cases hx
    rw [Awaited.eq_packet_of_judge hjudge] at hunread hjudge
    exact ⟨_, _, hunread, hbefore, hjudge, rfl⟩
  | ended => cases hx
  | passed =>
    -- What the state comes to is a loss, never a reply.
    obtain ⟨lost, -, herr⟩ := Option.map_eq_some_iff.mp (congrArg Prod.fst hx).symm
    cases herr

end ReplyStream
end SensorLink
