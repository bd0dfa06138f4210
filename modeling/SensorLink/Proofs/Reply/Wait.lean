import SensorLink.Proofs.Channel.Receipt
import SensorLink.Proofs.Reply.Look
import SensorLink.Rehearsal.Task

/-!
# A wait and its looks

A `Wait` is one wait of a reply stream with its history: for what and until when it waits, which
packets its matcher was shown, and what it came to. A look at what is there goes by `poll` and then
by the clock, as a wait of a dialogue does (`step_await`).

Whatever a wait has come to, it can be said which packets it accounts for: the ones that its matcher
was shown and, if it ended in a lag, as many as it says that it missed (`Stands`). A look only ever
moves packets from what is unread to what is accounted for:

> **what was unread before a look is what the wait accounts for beyond what it did, and then what is
> unread after it** (`stands_look`).
-/

namespace SensorLink

namespace ReplyStream

theorem firstJudged_of_passed {awaited : Awaited} {packets : List Packet}
    (h : ∀ p ∈ packets, awaited.judge p = none) :
    firstJudged awaited packets = (none, packets.length) := by
  rcases hfirst : firstJudged awaited packets with ⟨_ | outcome, looked⟩
  · rw [(firstJudged_eq_none hfirst).1]
  · obtain ⟨before, packet, after, rfl, -, -, hjudge⟩ := firstJudged_eq_some hfirst
    rw [h packet (by simp)] at hjudge
    cases hjudge

/-- The first packet that decides is found wherever it stands. -/
theorem firstJudged_of_judged {awaited : Awaited} {before after : List Packet} {packet : Packet}
    {outcome : Except Error awaited.Reply} (hbefore : ∀ p ∈ before, awaited.judge p = none)
    (hjudge : awaited.judge packet = some outcome) :
    firstJudged awaited (before ++ packet :: after) = (some outcome, before.length + 1) := by
  refine firstJudged_of_getElem? (by simp) hjudge fun j p hj hget => ?_
  rw [List.getElem?_append_left hj] at hget
  exact hbefore p (List.mem_of_getElem? hget)

/-- The packets that a matcher is shown: as many as are looked at for the first that it does not pass
over. -/
def examined (awaited : Awaited) (packets : List Packet) : List Packet :=
  packets.take (firstJudged awaited packets).2

theorem examined_of_passed {awaited : Awaited} {packets : List Packet}
    (h : ∀ p ∈ packets, awaited.judge p = none) : examined awaited packets = packets := by
  rw [examined, firstJudged_of_passed h, List.take_length]

/-- What stands behind the packet that has decided was not looked at. It is left for the next wait.
-/
theorem examined_of_judged {awaited : Awaited} {before after : List Packet} {packet : Packet}
    {outcome : Except Error awaited.Reply} (hbefore : ∀ p ∈ before, awaited.judge p = none)
    (hjudge : awaited.judge packet = some outcome) :
    examined awaited (before ++ packet :: after) = before ++ [packet] := by
  rw [examined, firstJudged_of_judged hbefore hjudge, List.append_cons]
  exact List.take_left' (by simp)

/-- A matcher passes over all of some packets, or there is a first that it does not pass over. -/
theorem passed_or_judged (awaited : Awaited) (packets : List Packet) :
    (∀ p ∈ packets, awaited.judge p = none) ∨
      ∃ before packet after outcome, packets = before ++ packet :: after ∧
        (∀ p ∈ before, awaited.judge p = none) ∧ awaited.judge packet = some outcome := by
  rcases hfirst : firstJudged awaited packets with ⟨_ | outcome, looked⟩
  · exact .inl (firstJudged_eq_none hfirst).2
  · obtain ⟨before, packet, after, hsplit, -, hbefore, hjudge⟩ := firstJudged_eq_some hfirst
    exact .inr ⟨before, packet, after, outcome, hsplit, hbefore, hjudge⟩

/-! ## The four cases of a look, as equations -/

section Poll

variable {awaited : Awaited} {inbox : Inbox} {stream : ReplyStream}

/-- A stream that has fallen behind says so first. It goes on at the oldest packet that is still
there, so it says so once. -/
theorem poll_lagged (h : stream.next < inbox.packets.oldest) :
    stream.poll awaited inbox =
      (some (.error (.repliesMissed (inbox.packets.oldest - stream.next))),
        { stream with next := inbox.packets.oldest }) := by
  unfold poll
  exact if_pos h

/-- If nothing was overwritten, the first packet that decides is what the wait ends with. -/
theorem poll_judged (h : inbox.packets.oldest ≤ stream.next) {before after : List Packet}
    {packet : Packet} {outcome : Except Error awaited.Reply}
    (hunread : inbox.packets.unread stream.next = before ++ packet :: after)
    (hbefore : ∀ p ∈ before, awaited.judge p = none)
    (hjudge : awaited.judge packet = some outcome) :
    stream.poll awaited inbox =
      (some outcome, { stream with next := stream.next + (before.length + 1) }) := by
  unfold poll
  simp only [if_neg (Nat.not_lt.mpr h), hunread, firstJudged_of_judged hbefore hjudge]

/-- If none decides, all of them are gone for good, and the state of the link is looked at. -/
theorem poll_passed (h : inbox.packets.oldest ≤ stream.next)
    (hpassed : ∀ p ∈ inbox.packets.unread stream.next, awaited.judge p = none) :
    stream.poll awaited inbox =
      let read : ReplyStream :=
        { stream with next := stream.next + (inbox.packets.unread stream.next).length }
      if inbox.packets.closed then (some (.error (.linkLost .streamClosed)), read)
      else ((pollState inbox read).1.map .error, (pollState inbox read).2) := by
  unfold poll
  simp only [if_neg (Nat.not_lt.mpr h), firstJudged_of_passed hpassed]

/-- What the state comes to has nothing to do with the packets. -/
theorem pollState_fst_next (inbox : Inbox) (stream : ReplyStream) (next : Nat) :
    (pollState inbox { stream with next }).1 = (pollState inbox stream).1 := by
  unfold pollState
  dsimp only
  split
  · rfl
  · rfl
  · split <;> rfl

end Poll
end ReplyStream

namespace Awaited

theorem error_of_judge {awaited : Awaited} {p : Packet} {e : Error}
    (h : awaited.judge p = some (.error e)) : ∃ r, e = rejected r := by
  cases awaited <;> cases p <;> simp only [judge, reduceCtorEq] at h
  case response.downlinkResponse =>
    split at h
    · split at h <;> cases h
      exact ⟨_, rfl⟩
    · cases h
  case uplink.downlinkResponse =>
    split at h <;> cases h
    exact ⟨_, rfl⟩
  case uplink.uplinkNotification | answer.jigInfoResponse | acknowledgement.downlinkResponse =>
    split at h <;> cases h
  case updateAnswer.dfuResponse => cases h

end Awaited

/-! ## Waits -/

/-- A wait: what it is for and until when, what its matcher was shown, and what it came to. -/
structure Wait where
  awaited : Awaited
  timeout : Duration
  deadline : Nat
  shown : List Packet := []
  outcome : Option (Except Error awaited.Reply) := none

namespace Wait

/-- What a wait comes to when it looks: what it finds, or the end of its time. -/
def judgement (wait : Wait) (inbox : Inbox) (now : Nat) (stream : ReplyStream) :
    Option (Except Error wait.awaited.Reply) :=
  match (stream.poll wait.awaited inbox).1 with
  | some found => some found
  | none => if wait.deadline ≤ now then some (.error (.timedOut wait.timeout)) else none

/-- The packets that its matcher is shown: none if others were missed. -/
def examines (wait : Wait) (inbox : Inbox) (stream : ReplyStream) : List Packet :=
  if stream.next < inbox.packets.oldest then []
  else ReplyStream.examined wait.awaited (inbox.packets.unread stream.next)

def look (wait : Wait) (inbox : Inbox) (now : Nat) (stream : ReplyStream) : Wait :=
  { wait with
    shown := wait.shown ++ wait.examines inbox stream
    outcome := wait.judgement inbox now stream }

/-- What a look leaves of the stream. -/
def streamAfter (wait : Wait) (inbox : Inbox) (stream : ReplyStream) : ReplyStream :=
  (stream.poll wait.awaited inbox).2

/-- A wait that has begun looks as the wait of a dialogue does. -/
theorem step_await {α : Type} (wait : Wait) (next : wait.awaited.Reply → Dialogue α)
    (stream : ReplyStream) (world : World) :
    Task.step ⟨.await wait.awaited wait.timeout next, stream, some wait.deadline⟩ world =
      let after := wait.streamAfter world.link.inbox stream
      match wait.judgement world.link.inbox world.now stream with
      | some (.ok reply) => .moved ⟨next reply, after, none⟩ world
      | some (.error e) => .moved ⟨.done (.error e), after, none⟩ world
      | none => .blocked ⟨.await wait.awaited wait.timeout next, after, some wait.deadline⟩
          wait.deadline := by
  simp only [Task.step, judgement, streamAfter, Task.goOn, Task.stop]
  rcases stream.poll wait.awaited world.link.inbox with ⟨_ | _ | _, after⟩
  · by_cases hlate : wait.deadline ≤ world.now
    · simp [hlate]
    · simp [hlate]
  · rfl
  · rfl

/-- What a wait comes to where no packet says anything: a loss, the end of its time, or nothing. -/
def silence (wait : Wait) (inbox : Inbox) (now : Nat) (stream : ReplyStream) :
    Option (Except Error wait.awaited.Reply) :=
  if inbox.packets.closed then some (.error (.linkLost .streamClosed))
  else
    match (ReplyStream.pollState inbox stream).1 with
    | some lost => some (.error lost)
    | none => if wait.deadline ≤ now then some (.error (.timedOut wait.timeout)) else none

/-! ## The three cases of a look, as equations -/

section Look

variable (wait : Wait) {inbox : Inbox} (now : Nat) {stream : ReplyStream}

theorem look_lagged (h : stream.next < inbox.packets.oldest) :
    wait.look inbox now stream = { wait with
      shown := wait.shown
      outcome := some (.error (.repliesMissed (inbox.packets.oldest - stream.next))) } := by
  simp only [look, examines, judgement, if_pos h, ReplyStream.poll_lagged h, List.append_nil]

theorem streamAfter_lagged (h : stream.next < inbox.packets.oldest) :
    wait.streamAfter inbox stream = { stream with next := inbox.packets.oldest } := by
  rw [streamAfter, ReplyStream.poll_lagged h]

section Judged

variable {before after : List Packet} {packet : Packet} {outcome : Except Error wait.awaited.Reply}

theorem judgement_judged (h : inbox.packets.oldest ≤ stream.next)
    (hunread : inbox.packets.unread stream.next = before ++ packet :: after)
    (hbefore : ∀ p ∈ before, wait.awaited.judge p = none)
    (hjudge : wait.awaited.judge packet = some outcome) :
    wait.judgement inbox now stream = some outcome := by
  rw [judgement, ReplyStream.poll_judged h hunread hbefore hjudge]

theorem look_judged (h : inbox.packets.oldest ≤ stream.next)
    (hunread : inbox.packets.unread stream.next = before ++ packet :: after)
    (hbefore : ∀ p ∈ before, wait.awaited.judge p = none)
    (hjudge : wait.awaited.judge packet = some outcome) :
    wait.look inbox now stream =
      { wait with shown := wait.shown ++ (before ++ [packet]), outcome := some outcome } := by
  simp only [look, examines, if_neg (Nat.not_lt.mpr h), hunread,
    ReplyStream.examined_of_judged hbefore hjudge,
    wait.judgement_judged now h hunread hbefore hjudge]

theorem streamAfter_judged (h : inbox.packets.oldest ≤ stream.next)
    (hunread : inbox.packets.unread stream.next = before ++ packet :: after)
    (hbefore : ∀ p ∈ before, wait.awaited.judge p = none)
    (hjudge : wait.awaited.judge packet = some outcome) :
    wait.streamAfter inbox stream = { stream with next := stream.next + (before.length + 1) } := by
  rw [streamAfter, ReplyStream.poll_judged h hunread hbefore hjudge]

end Judged

section Passed

variable (h : inbox.packets.oldest ≤ stream.next)
  (hpassed : ∀ p ∈ inbox.packets.unread stream.next, wait.awaited.judge p = none)

include h hpassed

theorem look_passed :
    wait.look inbox now stream = { wait with
      shown := wait.shown ++ inbox.packets.unread stream.next
      outcome := wait.silence inbox now stream } := by
  have hjudgement : wait.judgement inbox now stream = wait.silence inbox now stream := by
    rw [judgement, silence, ReplyStream.poll_passed h hpassed]
    cases inbox.packets.closed with
    | true => rfl
    | false =>
      simp only [Bool.false_eq_true, if_false, ReplyStream.pollState_fst_next]
      cases (ReplyStream.pollState inbox stream).1 <;> rfl
  simp only [look, examines, if_neg (Nat.not_lt.mpr h), ReplyStream.examined_of_passed hpassed,
    hjudgement]

theorem next_streamAfter_passed :
    (wait.streamAfter inbox stream).next =
      stream.next + (inbox.packets.unread stream.next).length := by
  rw [streamAfter, ReplyStream.poll_passed h hpassed]
  cases inbox.packets.closed with
  | true => rfl
  | false => exact ReplyStream.pollState_next _ _

theorem seen_streamAfter_passed :
    (wait.streamAfter inbox stream).seen =
      if inbox.packets.closed then stream.seen else inbox.state.version := by
  rw [streamAfter, ReplyStream.poll_passed h hpassed]
  cases inbox.packets.closed with
  | true => rfl
  | false => exact ReplyStream.seen_pollState _ _

end Passed

/-- With nothing to be found in the packets, a wait goes on, or it ends with the link or with its
time. -/
theorem silence_cases (inbox : Inbox) (stream : ReplyStream) :
    wait.silence inbox now stream = none ∨
      (∃ cause, wait.silence inbox now stream = some (.error (.linkLost cause))) ∨
      wait.silence inbox now stream = some (.error (.timedOut wait.timeout)) := by
  unfold silence
  split
  · exact .inr (.inl ⟨_, rfl⟩)
  · split
    · rename_i lost hlost
      rw [ReplyStream.pollState_error hlost]
      exact .inr (.inl ⟨_, rfl⟩)
    · split
      · exact .inr (.inr rfl)
      · exact .inl rfl

end Look

/-! ## What a wait accounts for -/

/-- How a wait stands, and the packets that it accounts for: those that its matcher was shown, and
as many as it says that it missed. -/
inductive Stands (wait : Wait) : List Packet → Prop where
  | waiting (hshown : ∀ p ∈ wait.shown, wait.awaited.judge p = none) (h : wait.outcome = none) :
    Stands wait wait.shown
  | answered {before : List Packet} {packet : Packet} {outcome : Except Error wait.awaited.Reply}
      (hshown : wait.shown = before ++ [packet])
      (hbefore : ∀ p ∈ before, wait.awaited.judge p = none)
      (hjudge : wait.awaited.judge packet = some outcome) (h : wait.outcome = some outcome) :
    Stands wait wait.shown
  | lagged {missed : List Packet} (hshown : ∀ p ∈ wait.shown, wait.awaited.judge p = none)
      (hmissed : missed ≠ []) (h : wait.outcome = some (.error (.repliesMissed missed.length))) :
    Stands wait (wait.shown ++ missed)
  | lost {cause : LinkLoss} (hshown : ∀ p ∈ wait.shown, wait.awaited.judge p = none)
      (h : wait.outcome = some (.error (.linkLost cause))) : Stands wait wait.shown
  | late (hshown : ∀ p ∈ wait.shown, wait.awaited.judge p = none)
      (h : wait.outcome = some (.error (.timedOut wait.timeout))) : Stands wait wait.shown

/-- A wait that goes on has been shown nothing but what it passed over. -/
theorem Stands.of_none {wait : Wait} {packets : List Packet} (h : Stands wait packets)
    (hnone : wait.outcome = none) :
    packets = wait.shown ∧ ∀ p ∈ wait.shown, wait.awaited.judge p = none := by
  cases h with
  | waiting hshown => exact ⟨rfl, hshown⟩
  | answered _ _ _ h | lagged _ _ h | lost _ h | late _ h =>
    rw [hnone] at h
    cases h

/-- **What was unread before a look is what the wait accounts for beyond what it did, and then what
is unread after it.** -/
theorem stands_look (wait : Wait) {inbox : Inbox} (now : Nat) {stream : ReplyStream}
    (hshown : ∀ p ∈ wait.shown, wait.awaited.judge p = none)
    (hnext : stream.next ≤ inbox.packets.tail) :
    ∃ items, Stands (wait.look inbox now stream) (wait.shown ++ items) ∧
      inbox.packets.unread stream.next =
        items ++ inbox.packets.unread (wait.streamAfter inbox stream).next ∧
      (wait.streamAfter inbox stream).next ≤ inbox.packets.tail := by
  have hlength : (inbox.packets.unread stream.next).length = inbox.packets.tail - stream.next := by
    rw [Broadcast.unread_eq_drop, List.length_drop, Array.length_toList]
    rfl
  have holdest := inbox.packets.oldest_le_tail
  rcases Nat.lt_or_ge stream.next inbox.packets.oldest with hlag | hkept
  · -- The packets that are gone are the first of the unread ones.
    have hmissed : ((inbox.packets.unread stream.next).take
        (inbox.packets.oldest - stream.next)).length = inbox.packets.oldest - stream.next := by
      rw [List.length_take]
      omega
    refine ⟨(inbox.packets.unread stream.next).take (inbox.packets.oldest - stream.next), ?_, ?_,
      ?_⟩
    · rw [wait.look_lagged now hlag]
      refine .lagged hshown (fun hnil => ?_) (by rw [hmissed])
      rw [hnil, List.length_nil] at hmissed
      omega
    · have hafter := inbox.packets.unread_add stream.next (inbox.packets.oldest - stream.next)
      rw [Nat.add_sub_cancel' (Nat.le_of_lt hlag)] at hafter
      rw [wait.streamAfter_lagged hlag, hafter, List.take_append_drop]
    · rw [wait.streamAfter_lagged hlag]
      exact holdest
  · obtain hpassed | ⟨before, packet, after, outcome, hunread, hbefore, hjudge⟩ :=
      ReplyStream.passed_or_judged wait.awaited (inbox.packets.unread stream.next)
    · -- Nothing is left, and the wait goes on, or it is lost or late.
      have hshown' : ∀ p ∈ wait.shown ++ inbox.packets.unread stream.next,
          wait.awaited.judge p = none :=
        List.forall_mem_append.mpr ⟨hshown, hpassed⟩
      refine ⟨inbox.packets.unread stream.next, ?_, ?_, ?_⟩
      · rw [wait.look_passed now hkept hpassed]
        obtain h | ⟨cause, h⟩ | h := wait.silence_cases now inbox stream
        · exact .waiting hshown' h
        · exact .lost hshown' h
        · exact .late hshown' h
      · rw [wait.next_streamAfter_passed hkept hpassed, Broadcast.unread_add, List.drop_length,
          List.append_nil]
      · rw [wait.next_streamAfter_passed hkept hpassed]
        omega
    -- The packet that decides is shown last, and what stands behind it is left.
    · refine ⟨before ++ [packet], ?_, ?_, ?_⟩
      · rw [wait.look_judged now hkept hunread hbefore hjudge]
        exact .answered (List.append_assoc ..).symm
          (List.forall_mem_append.mpr ⟨hshown, hbefore⟩) hjudge rfl
      · rw [wait.streamAfter_judged hkept hunread hbefore hjudge, Broadcast.unread_add, hunread]
        simp
      · rw [wait.streamAfter_judged hkept hunread hbefore hjudge]
        rw [hunread, List.length_append, List.length_cons] at hlength
        simp only
        omega

end Wait
end SensorLink
