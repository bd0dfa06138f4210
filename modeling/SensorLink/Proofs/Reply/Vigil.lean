import SensorLink.Proofs.Reply.Wait

/-!
# Waits on one stream

A `Vigil` is a reply stream with everything that can happen around it: packets and states are
published, channels end, time passes, and waits are made on the stream one after another, each of
them looking at what is there whenever it is woken. A wait that is given up before it has come to
anything is followed by another like any other.

All waits share one position, so it has to be said of all of them together that nothing gets lost
between them:

> **what was sent since the stream was taken is what its waits account for, one after another, and
> then what is still unread** (`faithful`).

Of a single look at what is there, the same theorem says that a lag comes before any packet that is
left, that the first packet which is not passed over decides and nothing behind it is touched, and
that as long as there is such a packet no loss of the link and no clock ends the wait (`Looks`).

A look is one thing that happens, as a `poll` is: what is sent meanwhile counts as sent after it.
-/

namespace SensorLink

/-- A reply stream, what is published around it and the waits that are made on it. -/
structure Vigil where
  inbox : Inbox
  stream : ReplyStream
  now : Nat := 0
  /-- The states that were published since the stream was taken. -/
  published : List LinkState := []
  /-- The waits before this one. -/
  past : List Wait := []
  wait : Option Wait := none

namespace Vigil

def start (inbox : Inbox) : Vigil := { inbox, stream := .subscribe inbox }

/-- All waits, in the order in which they were made. -/
def waits (v : Vigil) : List Wait := v.past ++ v.wait.toList

/-- The wait that has not come to anything yet. -/
def going (v : Vigil) : Option Wait := v.wait.filter fun wait => wait.outcome.isNone

def unread (v : Vigil) : List Packet := v.inbox.packets.unread v.stream.next

/-- How many of the unread packets the channel has dropped. -/
def overwritten (v : Vigil) : Nat := v.unread.length - v.inbox.packets.capacity

/-- A wait after a look at what is there now. -/
def looked (v : Vigil) (wait : Wait) : Wait := wait.look v.inbox v.now v.stream

def look (v : Vigil) (wait : Wait) : Vigil :=
  { v with wait := some (v.looked wait), stream := wait.streamAfter v.inbox v.stream }

/-- What can happen. -/
inductive Move where
  | arrives (packet : Packet)
  | enters (state : LinkState)
  | endPackets
  | endStates
  | passes (span : Nat)
  /-- A wait is made; the one before it, if it is not over, is given up. -/
  | wait (awaited : Awaited) (timeout : Duration)
  | look

def step (v : Vigil) : Move → Vigil
  | .arrives packet => { v with inbox.packets := v.inbox.packets.send packet }
  | .enters state =>
    { v with
      inbox.state := v.inbox.state.publish state
      published := if v.inbox.state.closed then v.published else v.published ++ [state] }
  | .endPackets => { v with inbox.packets := v.inbox.packets.close }
  | .endStates => { v with inbox.state := v.inbox.state.close }
  | .passes span => { v with now := v.now + span }
  | .wait awaited timeout =>
    { v with
      past := v.waits
      wait := some { awaited, timeout, deadline := v.now + timeout.ticks } }
  | .look =>
    match v.going with
    | some wait => v.look wait
    | none => v

def run (moves : List Move) (v : Vigil) : Vigil := moves.foldl step v

theorem going_eq_some {v : Vigil} {wait : Wait} (h : v.going = some wait) :
    v.wait = some wait ∧ wait.outcome = none := by
  obtain ⟨hwait, hnone⟩ := Option.filter_eq_some_iff.mp h
  exact ⟨hwait, Option.isNone_iff_eq_none.mp hnone⟩

theorem step_look_of_going {v : Vigil} {wait : Wait} (h : v.going = some wait) :
    v.step .look = v.look wait := by
  simp only [step, h]

theorem step_look_of_none {v : Vigil} (h : v.going = none) : v.step .look = v := by
  simp only [step, h]

theorem overwritten_eq (v : Vigil) :
    v.overwritten = v.inbox.packets.oldest - v.stream.next := by
  simp only [overwritten, unread, Broadcast.unread_eq_drop, List.length_drop, Array.length_toList,
    Broadcast.oldest]
  omega

/-- Nothing overwritten, nothing missed: the next packet of the stream is there. -/
theorem kept_of_overwritten {v : Vigil} (h : v.overwritten = 0) :
    v.inbox.packets.oldest ≤ v.stream.next := by
  rw [overwritten_eq] at h
  omega

theorem lag_of_overwritten {v : Vigil} (h : 0 < v.overwritten) :
    v.stream.next < v.inbox.packets.oldest := by
  rw [overwritten_eq] at h
  omega

theorem forall₂_waits {α : Type} {R : Wait → α → Prop} {v : Vigil} {wait : Wait} {items : List α}
    (hwait : v.wait = some wait) (h : List.Forall₂ R v.waits items) :
    ∃ earlier last, items = earlier ++ [last] ∧ List.Forall₂ R v.past earlier ∧ R wait last := by
  rw [waits, hwait, Option.toList_some] at h
  have hearlier := (List.forall₂_take_append _ _ _ h.flip).flip
  obtain ⟨last, _, hlast, hnil, hdrop⟩ :=
    List.forall₂_cons_left_iff.mp (List.forall₂_drop_append _ _ _ h.flip).flip
  cases hnil
  refine ⟨_, last, ?_, hearlier, hlast⟩
  rw [← hdrop, List.take_append_drop]

/-! ## Nothing is lost between waits -/

/-- What the waits account for, in a run since the stream was taken. -/
structure Accounts (taken : Inbox) (v : Vigil) : Prop where
  next_le : v.stream.next ≤ v.inbox.packets.tail
  accounted : ∃ items, List.Forall₂ Wait.Stands v.waits items ∧
    v.inbox.packets.sent.toList = taken.packets.sent.toList ++ (items.flatten ++ v.unread)

theorem accounts_start (inbox : Inbox) : Accounts inbox (start inbox) := by
  refine ⟨Nat.le_refl _, [], .nil, ?_⟩
  have hunread : (start inbox).unread = [] := inbox.packets.unread_tail
  rw [hunread]
  exact (List.append_nil _).symm

variable {taken : Inbox} {v : Vigil}

theorem Accounts.congr {w : Vigil} (hv : Accounts taken v) (hwaits : w.waits = v.waits)
    (hnext : w.stream.next = v.stream.next) (hsent : w.inbox.packets.sent = v.inbox.packets.sent) :
    Accounts taken w := by
  obtain ⟨hle, items, hstands, haccount⟩ := hv
  have hunread : w.unread = v.unread := by
    rw [unread, unread, Broadcast.unread_eq_drop, Broadcast.unread_eq_drop, hnext, hsent]
  refine ⟨?_, items, by rw [hwaits]; exact hstands, by rw [hunread, hsent]; exact haccount⟩
  rw [Broadcast.tail, hnext, hsent]
  exact hle

/-- A packet that arrives is unread, or it overwrites one that was. -/
theorem Accounts.arrives (hv : Accounts taken v) (packet : Packet) :
    Accounts taken (v.step (.arrives packet)) := by
  obtain ⟨hle, items, hstands, haccount⟩ := hv
  obtain ⟨more, hmore⟩ := (v.inbox.packets.extends_send packet).sent
  have hunread : (v.step (.arrives packet)).unread = v.unread ++ more :=
    Broadcast.unread_of_sent hmore.symm hle
  refine ⟨Nat.le_trans hle (Broadcast.tail_le_of_sent hmore.symm), items, hstands, ?_⟩
  rw [hunread, ← List.append_assoc items.flatten, ← List.append_assoc, ← haccount]
  exact hmore.symm

theorem Accounts.wait (hv : Accounts taken v) (awaited : Awaited) (timeout : Duration) :
    Accounts taken (v.step (.wait awaited timeout)) := by
  obtain ⟨hle, items, hstands, haccount⟩ := hv
  refine ⟨hle, items ++ [[]], ?_, ?_⟩
  · exact List.rel_append hstands (.cons (.waiting (List.forall_mem_nil _) rfl) .nil)
  · rw [List.flatten_append, List.flatten_singleton, List.append_nil]
    exact haccount

/-- A look only moves packets from what is unread to what its wait accounts for. -/
theorem Accounts.look (hv : Accounts taken v) : Accounts taken (v.step .look) := by
  rcases hgoing : v.going with _ | wait
  · rw [step_look_of_none hgoing]
    exact hv
  · obtain ⟨hwait, hnone⟩ := going_eq_some hgoing
    obtain ⟨hle, items, hstands, haccount⟩ := hv
    obtain ⟨earlier, last, rfl, hearlier, hlast⟩ := forall₂_waits hwait hstands
    obtain ⟨rfl, hpassed⟩ := hlast.of_none hnone
    obtain ⟨more, hstanding, hunread, hafter⟩ := wait.stands_look v.now hpassed hle
    rw [step_look_of_going hgoing]
    refine ⟨hafter, earlier ++ [wait.shown ++ more], ?_, ?_⟩
    · exact List.rel_append hearlier (.cons hstanding .nil)
    · have hrest : v.unread = more ++ (v.look wait).unread := hunread
      rw [hrest] at haccount
      simpa [Vigil.look] using haccount

/-- **One thing that happens keeps the accounts**, and each of them is about packets, so that states
and time do not matter. -/
theorem accounts_step (hv : Accounts taken v) (move : Move) : Accounts taken (v.step move) := by
  cases move with
  | arrives packet => exact hv.arrives packet
  | wait awaited timeout => exact hv.wait awaited timeout
  | look => exact hv.look
  | enters state => exact hv.congr rfl rfl rfl
  | endPackets => exact hv.congr rfl rfl rfl
  | endStates => exact hv.congr rfl rfl rfl
  | passes span => exact hv.congr rfl rfl rfl

theorem accounts_run (hv : Accounts taken v) (moves : List Move) :
    Accounts taken (v.run moves) := by
  induction moves generalizing v with
  | nil => exact hv
  | cons move moves ih => exact ih (accounts_step hv move)

/-! ## What a look comes to -/

/-- What a look of a wait comes to, and what it leaves unread. -/
structure Looks (v : Vigil) (wait : Wait) : Prop where
  missed (n : Nat) : (v.looked wait).outcome = some (.error (.repliesMissed n)) ↔
    0 < n ∧ n = v.overwritten
  /-- Where packets were missed, the ones that are left are not looked at. -/
  spared (h : 0 < v.overwritten) :
    (v.looked wait).shown = wait.shown ∧ (v.look wait).unread = v.unread.drop v.overwritten
  /-- The first packet that is not passed over decides, and no packet behind it is touched. -/
  first {before after : List Packet} {packet : Packet} {outcome : Except Error wait.awaited.Reply}
    (hkept : v.overwritten = 0) (hunread : v.unread = before ++ packet :: after)
    (hbefore : ∀ p ∈ before, wait.awaited.judge p = none)
    (hjudge : wait.awaited.judge packet = some outcome) :
    (v.looked wait).outcome = some outcome ∧
      (v.looked wait).shown = wait.shown ++ (before ++ [packet]) ∧ (v.look wait).unread = after
  /-- As long as there is such a packet, neither the link nor the clock ends the wait. -/
  held (h : ∃ p ∈ v.unread.drop v.overwritten, wait.awaited.judge p ≠ none) :
    ∃ outcome, (v.looked wait).outcome = some outcome ∧
      (∀ cause, outcome ≠ .error (.linkLost cause)) ∧
      ∀ timeout, outcome ≠ .error (.timedOut timeout)

/-- A look that finds a gap reports how large it is. -/
theorem looked_lagged (v : Vigil) (wait : Wait) (h : 0 < v.overwritten) :
    v.looked wait =
        { wait with
          shown := wait.shown
          outcome := some (.error (.repliesMissed v.overwritten)) } ∧
      (v.look wait).unread = v.unread.drop v.overwritten := by
  have hlag := lag_of_overwritten h
  refine ⟨by rw [looked, wait.look_lagged v.now hlag, overwritten_eq], ?_⟩
  have hafter : (v.look wait).stream.next = v.stream.next + v.overwritten := by
    rw [Vigil.look, wait.streamAfter_lagged hlag, overwritten_eq]
    exact (Nat.add_sub_cancel' (Nat.le_of_lt hlag)).symm
  rw [unread, hafter]
  exact v.inbox.packets.unread_add _ _

theorem looks (v : Vigil) (wait : Wait) : Looks v wait where
  missed n := by
    rcases Nat.eq_zero_or_pos v.overwritten with hzero | hpos
    · -- Without a lag, nothing that is found is one.
      have hkept := kept_of_overwritten hzero
      refine ⟨fun h => ?_, fun ⟨hn, heq⟩ => absurd (heq.trans hzero) (Nat.ne_of_gt hn)⟩
      -- All were passed over and the look comes to the state or the clock, or the first one that
      -- decides is an answer or a refusal. Neither is a lag.
      obtain hpassed | ⟨before, packet, after, outcome, hunread, hbefore, hjudge⟩ :=
        ReplyStream.passed_or_judged wait.awaited (v.inbox.packets.unread v.stream.next)
      · rw [looked, wait.look_passed v.now hkept hpassed] at h
        obtain hs | ⟨cause, hs⟩ | hs := wait.silence_cases v.now v.inbox v.stream
        · cases hs.symm.trans h
        · cases hs.symm.trans h
        · cases hs.symm.trans h
      · rw [looked, wait.look_judged v.now hkept hunread hbefore hjudge] at h
        obtain ⟨r, hr⟩ := Awaited.error_of_judge (hjudge.trans h)
        cases hr
    · rw [(looked_lagged v wait hpos).1]
      constructor
      · intro h
        cases h
        exact ⟨hpos, rfl⟩
      · rintro ⟨-, rfl⟩
        rfl
  spared h := ⟨by rw [(looked_lagged v wait h).1], (looked_lagged v wait h).2⟩
  first {before after packet outcome} hzero hunread hbefore hjudge := by
    have hkept := kept_of_overwritten hzero
    refine ⟨wait.judgement_judged v.now hkept hunread hbefore hjudge, ?_, ?_⟩
    · rw [looked, wait.look_judged v.now hkept hunread hbefore hjudge]
    · have hafter : (v.look wait).unread = v.unread.drop (before.length + 1) := by
        rw [unread, Vigil.look, wait.streamAfter_judged hkept hunread hbefore hjudge]
        exact v.inbox.packets.unread_add _ _
      rw [hafter, hunread]
      simp
  held h := by
    obtain ⟨p, hp, haccepted⟩ := h
    -- Something accepted is there to be found, unless the look does not get to it for a lag.
    rcases Nat.eq_zero_or_pos v.overwritten with hzero | hpos
    · have hkept := kept_of_overwritten hzero
      obtain hpassed | ⟨before, packet, after, outcome, hunread, hbefore, hjudge⟩ :=
        ReplyStream.passed_or_judged wait.awaited (v.inbox.packets.unread v.stream.next)
      · exact absurd (hpassed p (List.mem_of_mem_drop hp)) haccepted
      · refine ⟨outcome, wait.judgement_judged v.now hkept hunread hbefore hjudge, ?_, ?_⟩
        · rintro cause rfl
          obtain ⟨r, hr⟩ := Awaited.error_of_judge hjudge
          cases hr
        · rintro timeout rfl
          obtain ⟨r, hr⟩ := Awaited.error_of_judge hjudge
          cases hr
    · refine ⟨.error (.repliesMissed v.overwritten), by rw [(looked_lagged v wait hpos).1], ?_, ?_⟩
      · exact fun cause h => nomatch h
      · exact fun timeout h => nomatch h

/-! ## The whole of it -/

/-- What can be said of a reply stream and the waits on it, whatever has happened. -/
structure Faithful (taken : Inbox) (v : Vigil) : Prop where
  accounted : ∃ items, List.Forall₂ Wait.Stands v.waits items ∧
    v.inbox.packets.sent.toList = taken.packets.sent.toList ++ (items.flatten ++ v.unread)
  looks (wait : Wait) (h : v.going = some wait) : Looks v wait

/-- **What was sent since the stream was taken is what its waits account for, one after another, and
then what is still unread.** -/
theorem faithful (inbox : Inbox) (moves : List Move) :
    Faithful inbox ((start inbox).run moves) where
  accounted := (accounts_run (accounts_start inbox) moves).accounted
  looks wait _ := looks _ wait

end Vigil
end SensorLink
