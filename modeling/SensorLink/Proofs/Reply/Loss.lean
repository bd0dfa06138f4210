import SensorLink.Proofs.Reply.Vigil

/-!
# Which losses a wait notices

The state of a link reaches a wait through a channel that holds the newest value only. A wait knows
that the state has changed since it was last looked at, and what it has become, but not what it was
in between: what a look takes in of the states that were published since is the last of them.

> **where no packet ends it, a wait ends in the loss of its link exactly if the newest state that it
> has not seen is `disconnected`; and each state is taken in by one wait** (`watchful`).

So a loss is reported by one wait at most, and by one in fact if it is the newest state when a wait
looks. A link that is down and up again by then was never down as far as the wait can tell
(`loss_unnoticed`).
-/

namespace SensorLink

/-- Whether a wait has ended because the link went down. -/
def Wait.lost (wait : Wait) : Bool :=
  match wait.outcome with
  | some (.error (.linkLost .disconnectedWhileWaiting)) => true
  | _ => false

namespace Vigil

/-- The states that were published since the state was last looked at. -/
def unseen (v : Vigil) : List LinkState :=
  v.published.drop (v.published.length - (v.inbox.state.version - v.stream.seen))

/-! ## The newest state -/

/-- The channel holds the last of the states that were published, and they are numbered. -/
structure Sight (v : Vigil) : Prop where
  seen_le : v.stream.seen ≤ v.inbox.state.version
  unseen_le : v.inbox.state.version - v.stream.seen ≤ v.published.length
  newest (state : LinkState) (h : v.published.getLast? = some state) :
    v.inbox.state.value = state

/-- Whoever subscribes has seen the state that the link is in. -/
theorem sight_start (inbox : Inbox) : Sight (start inbox) where
  seen_le := Nat.le_refl _
  unseen_le := by simp [start, ReplyStream.subscribe]
  newest state h := by simp [start] at h

variable {v w : Vigil}

theorem unseen_congr (hpublished : w.published = v.published)
    (hversion : w.inbox.state.version = v.inbox.state.version)
    (hseen : w.stream.seen = v.stream.seen) : w.unseen = v.unseen := by
  rw [unseen, unseen, hpublished, hversion, hseen]

/-- What was seen last is the latest, so there is nothing left to be seen. -/
theorem unseen_of_seen (h : v.stream.seen = v.inbox.state.version) : v.unseen = [] := by
  rw [unseen, h, Nat.sub_self, Nat.sub_zero, List.drop_length]

theorem Sight.congr (hv : Sight v) (hpublished : w.published = v.published)
    (hversion : w.inbox.state.version = v.inbox.state.version)
    (hvalue : w.inbox.state.value = v.inbox.state.value)
    (hseen : w.stream.seen = v.stream.seen ∨ w.stream.seen = v.inbox.state.version) :
    Sight w := by
  obtain ⟨hle, hunseen, hnewest⟩ := hv
  refine ⟨?_, ?_, fun state h => ?_⟩
  · omega
  · rw [hpublished]
    omega
  · rw [hvalue]
    exact hnewest state (hpublished ▸ h)

/-- A state that is published is the newest of those that have not been seen. -/
theorem enters_open (hv : Sight v) (hopen : v.inbox.state.closed = false) (state : LinkState) :
    Sight (v.step (.enters state)) ∧
      (v.step (.enters state)).unseen = v.unseen ++ [state] := by
  obtain ⟨hle, hunseen, -⟩ := hv
  have hversion : (v.step (.enters state)).inbox.state.version = v.inbox.state.version + 1 := by
    simp [step, Watch.publish, hopen]
  have hpublished : (v.step (.enters state)).published = v.published ++ [state] := by
    simp [step, hopen]
  have hseen : (v.step (.enters state)).stream.seen = v.stream.seen := rfl
  refine ⟨⟨?_, ?_, fun newest h => ?_⟩, ?_⟩
  · omega
  · rw [hversion, hpublished, List.length_append, List.length_singleton, hseen]
    omega
  · rw [hpublished, List.getLast?_concat] at h
    cases h
    simp [step, Watch.publish, hopen]
  · have hcount : v.published.length + 1 - (v.inbox.state.version + 1 - v.stream.seen) =
        v.published.length - (v.inbox.state.version - v.stream.seen) := by omega
    rw [unseen, hversion, hpublished, hseen, List.length_append, List.length_singleton, hcount,
      List.drop_append_of_le_length (Nat.sub_le _ _), unseen]

theorem enters_closed (hclosed : v.inbox.state.closed = true) (state : LinkState) :
    v.step (.enters state) = v := by
  simp [step, Watch.publish, hclosed]

/-- The newest state that has not been seen is the one that the channel holds. -/
theorem getLast?_unseen (hv : Sight v) :
    v.unseen.getLast? =
      if v.stream.seen = v.inbox.state.version then none else some v.inbox.state.value := by
  obtain ⟨hle, hunseen, hnewest⟩ := hv
  split
  · rename_i hseen
    rw [unseen_of_seen hseen]
    rfl
  · rename_i hseen
    have hlast : v.unseen.getLast? = v.published.getLast? := by
      rw [unseen, List.getLast?_drop, if_neg (by omega)]
    cases hpublished : v.published.getLast? with
    | none =>
      rw [List.getLast?_eq_none_iff.mp hpublished, List.length_nil] at hunseen
      omega
    | some state => rw [hlast, hpublished, hnewest state hpublished]

/-! ## Looks at the state -/

/-- **A look at the state is a look at the newest one**, and at no other that came before it. -/
theorem pollState_eq (hv : Sight v) (hopen : v.inbox.state.closed = false) :
    (ReplyStream.pollState v.inbox v.stream).1 =
      if v.unseen.getLast? = some .disconnected
      then some (.linkLost .disconnectedWhileWaiting) else none := by
  rw [getLast?_unseen hv]
  unfold ReplyStream.pollState Watch.look
  by_cases hseen : v.stream.seen = v.inbox.state.version
  · simp [hseen, hopen]
  · simp only [if_pos hseen, if_neg hseen, hopen, Option.some.injEq, Bool.false_eq_true, or_false]
    split <;> rfl

/-- A loss goes before a timeout, where both could be reported. -/
theorem silence_eq (hv : Sight v) (hopen : v.inbox.state.closed = false)
    (hpackets : v.inbox.packets.closed = false) (wait : Wait) :
    wait.silence v.inbox v.now v.stream =
      if v.unseen.getLast? = some .disconnected
      then some (.error (.linkLost .disconnectedWhileWaiting))
      else if wait.deadline ≤ v.now then some (.error (.timedOut wait.timeout))
      else none := by
  rw [Wait.silence, hpackets, pollState_eq hv hopen]
  by_cases hlast : v.unseen.getLast? = some .disconnected
  · simp [hlast]
  · simp [hlast]

/-- A look that does not come to the state reports no loss; one that does takes in what it has not
seen, and reports a loss by the last of it. -/
inductive Glimpse (v : Vigil) (wait : Wait) : Prop where
  | packets (hlost : (v.looked wait).lost = false)
      (hseen : (v.look wait).stream.seen = v.stream.seen)
  | state (hlost : v.inbox.state.closed = false →
        (v.looked wait).lost = decide (v.unseen.getLast? = some .disconnected))
      (hseen : (v.look wait).stream.seen = v.inbox.state.version)

/-- One look, in the terms of the contract: what there was to be seen, and what came of it. -/
theorem glimpse (hv : Sight v) (wait : Wait) : Glimpse v wait := by
  -- A look comes to the state only if all packets were passed over and more of them can follow.
  rcases Nat.eq_zero_or_pos v.overwritten with hzero | hpos
  · have hkept := kept_of_overwritten hzero
    obtain hpassed | ⟨before, packet, after, outcome, hunread, hbefore, hjudge⟩ :=
      ReplyStream.passed_or_judged wait.awaited (v.inbox.packets.unread v.stream.next)
    · have hseen := wait.seen_streamAfter_passed hkept hpassed
      have hlooked := wait.look_passed v.now hkept hpassed
      cases hpackets : v.inbox.packets.closed with
      | true =>
        rw [hpackets, if_pos rfl] at hseen
        refine .packets ?_ hseen
        rw [looked, hlooked]
        simp [Wait.lost, Wait.silence, hpackets]
      | false =>
        rw [hpackets, if_neg Bool.false_ne_true] at hseen
        refine .state (fun hopen => ?_) hseen
        rw [looked, hlooked]
        simp only [Wait.lost, silence_eq hv hopen hpackets]
        by_cases hlast : v.unseen.getLast? = some .disconnected
        · simp [hlast]
        · by_cases hlate : wait.deadline ≤ v.now
          · simp [hlast, hlate]
          · simp [hlast, hlate]
    · refine .packets ?_ ?_
      · rw [looked, wait.look_judged v.now hkept hunread hbefore hjudge]
        unfold Wait.lost
        split
        · rename_i h
          obtain ⟨r, hr⟩ := Awaited.error_of_judge (hjudge.trans h)
          cases hr
        · rfl
      · rw [Vigil.look, wait.streamAfter_judged hkept hunread hbefore hjudge]
  · refine .packets ?_ ?_
    · rw [(looked_lagged v wait hpos).1]
      rfl
    · rw [Vigil.look, wait.streamAfter_lagged (lag_of_overwritten hpos)]

/-! ## Over a whole run -/

end Vigil

/-- What a wait has taken in of the states, look by look: `disconnected` as the last of what a look
finds is a loss, and the wait ends with it. -/
inductive Wait.Watched (wait : Wait) : List (List LinkState) → Prop where
  | up {glimpses : List (List LinkState)} (h : wait.lost = false)
      (hup : ∀ seen ∈ glimpses, seen.getLast? ≠ some .disconnected) : Watched wait glimpses
  | down {glimpses : List (List LinkState)} {seen : List LinkState} (h : wait.lost = true)
      (hup : ∀ seen ∈ glimpses, seen.getLast? ≠ some .disconnected)
      (hdown : seen.getLast? = some .disconnected) : Watched wait (glimpses ++ [seen])

theorem Wait.Watched.of_not_lost {wait : Wait} {glimpses : List (List LinkState)}
    (h : wait.Watched glimpses) (hlost : wait.lost = false) :
    ∀ seen ∈ glimpses, seen.getLast? ≠ some .disconnected := by
  cases h with
  | up _ hup => exact hup
  | down h =>
    rw [h] at hlost
    cases hlost

namespace Vigil

/-- The states that were published are those that the waits have taken in, one after another, and
then those that are still unseen. -/
def AllWatched (v : Vigil) : Prop :=
  ∃ glimpses, List.Forall₂ Wait.Watched v.waits glimpses ∧
    v.published = glimpses.flatten.flatten ++ v.unseen

structure Tally (v : Vigil) : Prop where
  sight : Sight v
  watched (h : v.inbox.state.closed = false) : AllWatched v

theorem tally_start (inbox : Inbox) : Tally (start inbox) :=
  ⟨sight_start inbox, fun _ => ⟨[], .nil, by simp [start, unseen]⟩⟩

/-- Nothing but states, waits and looks has to do with the losses. -/
theorem Tally.congr (hv : Tally v) (hwaits : w.waits = v.waits)
    (hpublished : w.published = v.published) (hstate : w.inbox.state = v.inbox.state)
    (hstream : w.stream = v.stream) : Tally w := by
  have hversion := congrArg Watch.version hstate
  have hseen := congrArg ReplyStream.seen hstream
  refine ⟨hv.sight.congr hpublished hversion (congrArg Watch.value hstate) (.inl hseen), ?_⟩
  rw [hstate, AllWatched, unseen_congr hpublished hversion hseen, hwaits, hpublished]
  exact hv.watched

theorem Tally.endStates (hv : Tally v) : Tally (v.step .endStates) :=
  ⟨hv.sight.congr rfl rfl rfl (.inl rfl), fun h => absurd h (by simp [step, Watch.close])⟩

theorem Tally.enters (hv : Tally v) (state : LinkState) : Tally (v.step (.enters state)) := by
  cases hclosed : v.inbox.state.closed with
  | true =>
    rw [enters_closed hclosed]
    exact hv
  | false =>
    obtain ⟨hsight, hunseen⟩ := enters_open hv.sight hclosed state
    obtain ⟨glimpses, hwatched, htaken⟩ := hv.watched hclosed
    refine ⟨hsight, fun _ => ⟨glimpses, hwatched, ?_⟩⟩
    rw [hunseen, ← List.append_assoc, ← htaken]
    simp [step, hclosed]

theorem Tally.wait (hv : Tally v) (awaited : Awaited) (timeout : Duration) :
    Tally (v.step (.wait awaited timeout)) := by
  refine ⟨hv.sight.congr rfl rfl rfl (.inl rfl), fun h => ?_⟩
  obtain ⟨glimpses, hwatched, htaken⟩ := hv.watched h
  refine ⟨glimpses ++ [[]], ?_, ?_⟩
  · exact List.rel_append hwatched (.cons (.up rfl (List.forall_mem_nil _)) .nil)
  · rw [List.flatten_append, List.flatten_singleton, List.append_nil]
    exact htaken

/-- A look either leaves the states alone, or takes in all of them. -/
theorem Tally.look (hv : Tally v) : Tally (v.step .look) := by
  rcases hgoing : v.going with _ | wait
  · rw [step_look_of_none hgoing]
    exact hv
  obtain ⟨hwait, hnone⟩ := going_eq_some hgoing
  have hbefore : wait.lost = false := by rw [Wait.lost, hnone]
  rw [step_look_of_going hgoing]
  cases glimpse hv.sight wait with
  | packets hlost hseen =>
    refine ⟨hv.sight.congr rfl rfl rfl (.inl hseen), fun hopen => ?_⟩
    obtain ⟨glimpses, hwatched, htaken⟩ := hv.watched hopen
    obtain ⟨earlier, last, rfl, hearlier, hlast⟩ := forall₂_waits hwait hwatched
    refine ⟨earlier ++ [last], ?_, ?_⟩
    · exact List.rel_append hearlier (.cons (.up hlost (hlast.of_not_lost hbefore)) .nil)
    · rw [unseen_congr (w := v.look wait) (v := v) rfl rfl hseen]
      exact htaken
  | state hlost hseen =>
    refine ⟨hv.sight.congr rfl rfl rfl (.inr hseen), fun hopen => ?_⟩
    obtain ⟨glimpses, hwatched, htaken⟩ := hv.watched hopen
    obtain ⟨earlier, last, rfl, hearlier, hlast⟩ := forall₂_waits hwait hwatched
    -- What is unseen now is one glimpse more, and the wait is lost by the last state of it.
    have hup := hlast.of_not_lost hbefore
    have hnow : (v.looked wait).Watched (last ++ [v.unseen]) := by
      by_cases hdown : v.unseen.getLast? = some .disconnected
      · exact .down (by rw [hlost hopen, decide_eq_true hdown]) hup hdown
      · refine .up (by rw [hlost hopen, decide_eq_false hdown]) ?_
        exact List.forall_mem_append.mpr ⟨hup, List.forall_mem_singleton.mpr hdown⟩
    refine ⟨earlier ++ [last ++ [v.unseen]], ?_, ?_⟩
    · exact List.rel_append hearlier (.cons hnow .nil)
    · rw [unseen_of_seen (v := v.look wait) hseen]
      simpa [Vigil.look] using htaken

/-- **One thing that happens keeps the tally.** -/
theorem tally_step (hv : Tally v) (move : Move) : Tally (v.step move) := by
  cases move with
  | enters state => exact hv.enters state
  | endStates => exact hv.endStates
  | wait awaited timeout => exact hv.wait awaited timeout
  | look => exact hv.look
  | arrives packet => exact hv.congr rfl rfl rfl rfl
  | endPackets => exact hv.congr rfl rfl rfl rfl
  | passes span => exact hv.congr rfl rfl rfl rfl

theorem tally_run (hv : Tally v) (moves : List Move) : Tally (v.run moves) := by
  induction moves generalizing v with
  | nil => exact hv
  | cons move moves ih => exact ih (tally_step hv move)

/-- What the waits of a reply stream notice of the losses of the link, as long as its states are
published. -/
structure Watchful (v : Vigil) : Prop where
  /-- What a wait comes to where no packet ends it: a loss, if that is the newest state. -/
  newest (wait : Wait) (hgoing : v.going = some wait) (hkept : v.overwritten = 0)
    (hpassed : ∀ p ∈ v.unread, wait.awaited.judge p = none)
    (hpackets : v.inbox.packets.closed = false) (hstates : v.inbox.state.closed = false) :
    (v.looked wait).outcome =
        (if v.unseen.getLast? = some .disconnected
          then some (.error (.linkLost .disconnectedWhileWaiting))
          else if wait.deadline ≤ v.now then some (.error (.timedOut wait.timeout))
          else none) ∧
      (v.look wait).unseen = []
  watched (hstates : v.inbox.state.closed = false) : AllWatched v

/-- **Where no packet ends it, a wait ends in the loss of its link exactly if the newest state that
it has not seen is `disconnected`; and each state is taken in by one wait.** -/
theorem watchful (inbox : Inbox) (moves : List Move) :
    Watchful ((start inbox).run moves) where
  newest wait _ hkept hpassed hpackets hstates := by
    have hsight := (tally_run (tally_start inbox) moves).sight
    have hkept := kept_of_overwritten hkept
    have hseen := wait.seen_streamAfter_passed hkept hpassed
    rw [hpackets, if_neg Bool.false_ne_true] at hseen
    refine ⟨?_, unseen_of_seen hseen⟩
    rw [looked, wait.look_passed _ hkept hpassed]
    exact silence_eq hsight hstates hpackets wait
  watched hstates := (tally_run (tally_start inbox) moves).watched hstates

/-- A link that is up again by the time of the look was never down as far as the wait can tell: it
goes on until its time is up. -/
theorem loss_unnoticed :
    let v := (start ⟨{ capacity := 16 }, { value := .connected }⟩).run
      [.enters .disconnected, .enters .connecting, .enters .connected,
        .wait (.response 0x2468800203400004 0x05) (.seconds 1), .look, .passes 1000, .look]
    v.published = [.disconnected, .connecting, .connected] ∧ v.inbox.packets.sent = #[] ∧
      ∃ wait, v.waits = [wait] ∧ wait.outcome = some (.error (.timedOut (.seconds 1))) := by
  refine ⟨rfl, rfl, _, rfl, ?_⟩
  rfl

end Vigil
end SensorLink
