import Mathlib.Data.List.Basic
import SensorLink.Link.Observers

/-!
# What an observer of a link is told

An observer knows the link only by its notices. Some of them are about the link itself, its changes
of state and its loss; the others report what has arrived. Two grammars say what a sequence of
notices can look like, one for each half.

`Account s notices s'` follows the link from state `s` to state `s'`. There are two ways from
connected to disconnected that an observer can hear of, and the grammar tells them apart: a link
that breaks is reported as lost first, and then it is disconnected at once. So

> **an account takes the edges of a link only** (`Account.isChain`), **a loss is reported of a
> connected link and is followed by the news that it is disconnected** (`Account.lost`), **and no
> connected link is disconnected without one** (`Account.direct`).

`Reports quiet found notices` says that the notices report what a framer found: the frame of each
packet, then the packet. An observer that makes calls when it is told the frame may hear of their
effect in between; one that is `quiet` then hears nothing there.
-/

namespace SensorLink

/-! ## Notices -/

namespace Notice

/-- Whether a notice is about the link itself. -/
def isChange : Notice → Bool
  | .state _ => true
  | .error (.linkLost _) => true
  | _ => false

def state? : Notice → Option LinkState
  | .state s => some s
  | _ => none

def packet? : Notice → Option Packet
  | .packet p => some p
  | _ => none

/-- A notice is of a change of the link or of something that has arrived, and not of both. So each
kind can be counted without regard to the other. -/
theorem state?_of_not_isChange {n : Notice} (h : n.isChange = false) : n.state? = none := by
  cases n with
  | state s => cases h
  | frame raw | packet p | error e => rfl

theorem packet?_of_isChange {n : Notice} (h : n.isChange = true) : n.packet? = none := by
  cases n with
  | packet p => cases h
  | state s | frame raw | error e => rfl

end Notice

def LinkEvent.heardBy (observer : Nat) : LinkEvent → Option Notice
  | .told o notice => if o = observer then some notice else none
  | _ => none

/-- What an observer was told among the things that happened. -/
def heard (observer : Nat) (events : List LinkEvent) : List Notice :=
  events.filterMap (LinkEvent.heardBy observer)

@[simp] theorem heard_nil (o : Nat) : heard o [] = [] := rfl

@[simp] theorem heard_append (o : Nat) (events later : List LinkEvent) :
    heard o (events ++ later) = heard o events ++ heard o later :=
  List.filterMap_append

def statesOf (notices : List Notice) : List LinkState := notices.filterMap Notice.state?

def packetsOf (notices : List Notice) : List Packet := notices.filterMap Notice.packet?

@[simp] theorem packetsOf_append (notices later : List Notice) :
    packetsOf (notices ++ later) = packetsOf notices ++ packetsOf later :=
  List.filterMap_append

/-- Changes of the link may stand anywhere among the packets and do not count. -/
theorem packetsOf_changes {notices : List Notice} (h : ∀ n ∈ notices, n.isChange = true) :
    packetsOf notices = [] :=
  List.filterMap_eq_nil_iff.mpr fun n hn => Notice.packet?_of_isChange (h n hn)

/-- The state that an observer believes the link to be in. -/
def believed (start : LinkState) (notices : List Notice) : LinkState :=
  (statesOf notices).getLastD start

@[simp] theorem believed_nil (s : LinkState) : believed s [] = s := rfl

@[simp] theorem believed_state (s t : LinkState) (notices : List Notice) :
    believed s (.state t :: notices) = believed t notices :=
  List.getLastD_cons

@[simp] theorem believed_lost (s : LinkState) (cause : LinkLoss) (notices : List Notice) :
    believed s (.error (.linkLost cause) :: notices) = believed s notices := rfl

/-- Only changes of the link are to be believed of its state. -/
theorem believed_cons_of_not_isChange {n : Notice} (h : n.isChange = false) (s : LinkState)
    (notices : List Notice) : believed s (n :: notices) = believed s notices := by
  unfold believed statesOf
  rw [List.filterMap_cons_none (Notice.state?_of_not_isChange h)]

/-! ## The state of the link -/

inductive Account : LinkState → List Notice → LinkState → Prop where
  | nothing {s : LinkState} : Account s [] s
  | arrives {s s' : LinkState} {n : Notice} {notices : List Notice} (h : n.isChange = false)
      (later : Account s notices s') : Account s (n :: notices) s'
  | moves {s t s' : LinkState} {notices : List Notice} (edge : LinkState.Edge s t)
      (h : s = .connected → t ≠ .disconnected) (later : Account t notices s') :
      Account s (.state t :: notices) s'
  | loses {cause : LinkLoss} {s' : LinkState} {notices : List Notice}
      (later : Account .disconnected notices s') :
      Account .connected (.error (.linkLost cause) :: .state .disconnected :: notices) s'

namespace Account

/-- An account can be continued from where it ended. -/
theorem trans {s t s' : LinkState} {notices more : List Notice} (h : Account s notices t)
    (h' : Account t more s') : Account s (notices ++ more) s' := by
  induction h with
  | nothing => exact h'
  | arrives hn _ ih => exact .arrives hn (ih h')
  | moves edge hdirect _ ih => exact .moves edge hdirect (ih h')
  | loses _ ih => exact .loses (ih h')

/-- **An account that is correct leaves no room for another belief**: whoever goes by it knows the
state of the link. -/
theorem believed_eq {s s' : LinkState} {notices : List Notice} (h : Account s notices s') :
    believed s notices = s' := by
  induction h with
  | nothing => rfl
  | arrives hn _ ih => rw [believed_cons_of_not_isChange hn, ih]
  | moves _ _ _ ih => rw [believed_state, ih]
  | loses _ ih => rw [believed_lost, believed_state, ih]

/-- The states that are told go from one to the next by the edges of the diagram. -/
theorem isChain {s s' : LinkState} {notices : List Notice} (h : Account s notices s') :
    (s :: statesOf notices).IsChain LinkState.Edge := by
  induction h with
  | nothing => exact .singleton _
  | arrives hn _ ih =>
    rw [statesOf, List.filterMap_cons_none (Notice.state?_of_not_isChange hn)]
    exact ih
  | moves edge _ _ ih => exact List.isChain_cons_cons.mpr ⟨edge, ih⟩
  | loses _ ih => exact List.isChain_cons_cons.mpr ⟨.lost, ih⟩

/-- **A loss is reported of a connected link, and the link is disconnected next.** -/
theorem lost {s s' : LinkState} {notices before after : List Notice} {cause : LinkLoss}
    (h : Account s notices s') (hsplit : notices = before ++ .error (.linkLost cause) :: after) :
    believed s before = .connected ∧ ∃ later, after = .state .disconnected :: later := by
  induction h generalizing before with
  | nothing => simp at hsplit
  | arrives hn _ ih =>
    cases before with
    | nil =>
      cases hsplit
      cases hn
    | cons m before =>
      obtain ⟨rfl, hrest⟩ := List.cons.inj hsplit
      rw [believed_cons_of_not_isChange hn]
      exact ih hrest
  | moves _ _ _ ih =>
    cases before with
    | nil => cases hsplit
    | cons m before =>
      obtain ⟨rfl, hrest⟩ := List.cons.inj hsplit
      rw [believed_state]
      exact ih hrest
  | loses _ ih =>
    -- The two notices of a loss come together: it is split off here, or behind both.
    match before with
    | [] =>
      cases hsplit
      exact ⟨rfl, _, rfl⟩
    | [m] => simp at hsplit
    | m :: m' :: before =>
      simp only [List.cons_append, List.cons.injEq] at hsplit
      obtain ⟨rfl, rfl, hrest⟩ := hsplit
      rw [believed_lost, believed_state]
      exact ih hrest

/-- **A connected link that is disconnected at once has been reported as lost just before.** -/
theorem direct {s s' : LinkState} {notices before after : List Notice}
    (h : Account s notices s') (hsplit : notices = before ++ .state .disconnected :: after)
    (hconnected : believed s before = .connected) :
    ∃ front cause, before = front ++ [.error (.linkLost cause)] := by
  -- By the findings of the account; the split is in one of them or behind it.
  induction h generalizing before with
  | nothing => simp at hsplit
  | arrives hn _ ih =>
    cases before with
    | nil =>
      cases hsplit
      cases hn
    | cons m before =>
      obtain ⟨rfl, hrest⟩ := List.cons.inj hsplit
      rw [believed_cons_of_not_isChange hn] at hconnected
      obtain ⟨front, cause, rfl⟩ := ih hrest hconnected
      exact ⟨_ :: front, cause, rfl⟩
  | moves _ hdirect _ ih =>
    cases before with
    | nil =>
      cases hsplit
      -- The split is here: only a loss may take a connected link down, and this is none.
      exact absurd rfl (hdirect hconnected)
    | cons m before =>
      obtain ⟨rfl, hrest⟩ := List.cons.inj hsplit
      rw [believed_state] at hconnected
      obtain ⟨front, cause, rfl⟩ := ih hrest hconnected
      exact ⟨_ :: front, cause, rfl⟩
  | @loses cause _ _ _ ih =>
    match before with
    | [] => simp at hsplit
    | [m] =>
      obtain ⟨rfl, -⟩ := List.cons.inj hsplit
      exact ⟨[], cause, rfl⟩
    | m :: m' :: before =>
      simp only [List.cons_append, List.cons.injEq] at hsplit
      obtain ⟨rfl, rfl, hrest⟩ := hsplit
      rw [believed_lost, believed_state] at hconnected
      obtain ⟨front, cause', rfl⟩ := ih hrest hconnected
      exact ⟨_ :: _ :: front, cause', rfl⟩

end Account

/-! ## What has arrived -/

inductive Reports (quiet : Prop) : List FramerEvent → List Notice → Prop where
  | nothing : Reports quiet [] []
  | change {found : List FramerEvent} {n : Notice} {notices : List Notice}
      (h : n.isChange = true) (later : Reports quiet found notices) :
      Reports quiet found (n :: notices)
  | discarded {found : List FramerEvent} {notices : List Notice} (cause : Malformed)
      (dropped : Bytes) (later : Reports quiet found notices) :
      Reports quiet (.discarded cause dropped :: found) (.error (.malformed cause) :: notices)
  | packet {found : List FramerEvent} {notices : List Notice} (p : Packet) (raw : Bytes)
      {between : List Notice} (hbetween : ∀ n ∈ between, n.isChange = true)
      (hquiet : quiet → between = []) (later : Reports quiet found notices) :
      Reports quiet (.packet p raw :: found) (.frame raw :: (between ++ .packet p :: notices))

namespace Reports

variable {quiet : Prop}

/-- What is told of two findings is told one after the other. -/
theorem trans {found found' : List FramerEvent} {notices notices' : List Notice}
    (h : Reports quiet found notices) (h' : Reports quiet found' notices') :
    Reports quiet (found ++ found') (notices ++ notices') := by
  induction h with
  | nothing => exact h'
  | change hn _ ih => exact .change hn ih
  | discarded cause dropped _ ih => exact .discarded cause dropped ih
  | packet p raw hbetween hquiet _ ih =>
    rw [List.cons_append, List.cons_append, List.append_assoc]
    exact .packet p raw hbetween hquiet ih

theorem of_changes {notices : List Notice} (h : ∀ n ∈ notices, n.isChange = true) :
    Reports quiet [] notices := by
  induction notices with
  | nil => exact .nothing
  | cons n notices ih =>
    exact .change (h n List.mem_cons_self) (ih fun m hm => h m (List.mem_cons_of_mem _ hm))

theorem changes {notices : List Notice} (h : Reports quiet [] notices) :
    ∀ n ∈ notices, n.isChange = true := by
  generalize hfound : ([] : List FramerEvent) = found at h
  induction h with
  | nothing => simp
  | change hn _ ih => exact List.forall_mem_cons.mpr ⟨hn, ih hfound⟩
  | discarded | packet => cases hfound

/-- An observer that only counts packets is told those that were found, in their order. -/
theorem packets_eq {found : List FramerEvent} {notices : List Notice}
    (h : Reports quiet found notices) : packetsOf notices = RouterEnd.packetsOf found := by
  induction h with
  | nothing => rfl
  | change hn _ ih =>
    rw [packetsOf, List.filterMap_cons_none (Notice.packet?_of_isChange hn)]
    exact ih
  | discarded cause dropped _ ih => exact ih
  | @packet _ notices p raw between hbetween _ _ ih =>
    have hcons : packetsOf (.frame raw :: (between ++ .packet p :: notices)) =
        packetsOf between ++ p :: packetsOf notices := packetsOf_append between _
    rw [hcons, packetsOf_changes hbetween, ih]
    rfl

/-- **A packet is reported right behind its frame**, but for what the frame itself has set off. -/
theorem frame {found : List FramerEvent} {notices before after : List Notice} {p : Packet}
    (h : Reports quiet found notices) (hsplit : notices = before ++ .packet p :: after) :
    ∃ front raw between, before = front ++ .frame raw :: between ∧ .packet p raw ∈ found ∧
      (∀ n ∈ between, n.isChange = true) ∧ (quiet → between = []) := by
  induction h generalizing before with
  | nothing => simp at hsplit
  | change hn _ ih =>
    cases before with
    | nil =>
      cases hsplit
      cases hn
    | cons m before =>
      obtain ⟨rfl, hrest⟩ := List.cons.inj hsplit
      obtain ⟨front, raw, between, rfl, hp, hbetween⟩ := ih hrest
      exact ⟨_ :: front, raw, between, rfl, hp, hbetween⟩
  | discarded cause dropped _ ih =>
    cases before with
    | nil => cases hsplit
    | cons m before =>
      obtain ⟨rfl, hrest⟩ := List.cons.inj hsplit
      obtain ⟨front, raw, between, rfl, hp, hbetween⟩ := ih hrest
      exact ⟨_ :: front, raw, between, rfl, List.mem_cons_of_mem _ hp, hbetween⟩
  | @packet _ notices q raw between hbetween hquiet _ ih =>
    cases before with
    | nil => cases hsplit
    | cons m before =>
      obtain ⟨rfl, hrest⟩ := List.cons.inj hsplit
      -- The packet is the one of this frame, or it comes later: what is between is no packet.
      rcases List.append_eq_append_iff.mp hrest with ⟨gap, rfl, hgap⟩ | ⟨gap, rfl, hgap⟩
      · cases gap with
        | nil =>
          cases hgap
          exact ⟨[], raw, between, by simp, List.mem_cons_self, hbetween, hquiet⟩
        | cons m' gap =>
          obtain ⟨rfl, hlater⟩ := List.cons.inj hgap
          obtain ⟨front, raw', between', rfl, hp, hbetween'⟩ := ih hlater
          exact ⟨.frame raw :: (between ++ .packet q :: front), raw', between', by simp,
            List.mem_cons_of_mem _ hp, hbetween'⟩
      · cases gap with
        | nil =>
          cases hgap
          exact ⟨[], raw, before, by simp, List.mem_cons_self, by simpa using hbetween,
            by simpa using hquiet⟩
        | cons m' gap =>
          obtain ⟨rfl, -⟩ := List.cons.inj hgap
          cases hbetween (.packet p) (by simp)

end Reports

/-! ## Telling -/

/-- Every observer is told some things, in turn. -/
def announcement (count : Nat) (notices : List Notice) : List LinkEvent :=
  (List.range count).flatMap fun observer => notices.map (.told observer)

/-- What one observer is told is not heard by another. -/
theorem heard_map_told (o o' : Nat) (notices : List Notice) :
    heard o (notices.map (.told o')) = if o' = o then notices else [] := by
  induction notices with
  | nil => simp [heard]
  | cons n notices ih =>
    unfold heard at ih ⊢
    split
    · rename_i h
      rw [if_pos h] at ih
      rw [List.map_cons, List.filterMap_cons_some (by exact if_pos h), ih]
    · rename_i h
      rw [if_neg h] at ih
      rw [List.map_cons, List.filterMap_cons_none (by exact if_neg h), ih]

theorem next_turn {α : Type} (o turns : Nat) (told : List α) :
    (if o < turns then told else []) ++ (if turns = o then told else []) =
      if o < turns + 1 then told else [] := by
  rcases Nat.lt_trichotomy o turns with h | rfl | h
  · rw [if_pos h, if_neg (by omega), if_pos (by omega), List.append_nil]
  · rw [if_neg (by omega), if_pos rfl, if_pos (by omega), List.nil_append]
  · rw [if_neg (by omega), if_neg (by omega), if_neg (by omega), List.append_nil]

/-- All observers hear an announcement alike, and nobody who is not there. -/
theorem heard_announcement (o count : Nat) (notices : List Notice) :
    heard o (announcement count notices) = if o < count then notices else [] := by
  induction count with
  | zero => rfl
  | succ count ih =>
    have hsplit : announcement (count + 1) notices =
        announcement count notices ++ notices.map (.told count) := by
      simp [announcement, List.range_succ]
    rw [hsplit, heard_append, ih, heard_map_told, next_turn]

theorem told_of_mem_announcement {count : Nat} {notices : List Notice} {event : LinkEvent}
    (h : event ∈ announcement count notices) : ∃ o, ∃ n ∈ notices, event = .told o n := by
  obtain ⟨o, -, h⟩ := List.mem_flatMap.mp h
  obtain ⟨n, hn, rfl⟩ := List.mem_map.mp h
  exact ⟨o, n, hn, rfl⟩

theorem append_toList_append {α : Type} (xs : Array α) (ys zs : List α) :
    xs ++ ys ++ zs = xs ++ (ys ++ zs) := by
  apply Array.toList_inj.mp
  simp

namespace Link

/-- Takes note of several things. -/
def recordAll (events : List LinkEvent) (link : Link) : Link :=
  { link with events := link.events ++ events }

/-- Everything that is noted goes by `recordAll`, so that one note is no special case. -/
theorem record_eq (event : LinkEvent) (link : Link) :
    link.record event = link.recordAll [event] := by
  simp [record, recordAll]

@[simp] theorem recordAll_nil (link : Link) : link.recordAll [] = link := by
  simp [recordAll]

@[simp] theorem recordAll_recordAll (events later : List LinkEvent) (link : Link) :
    (link.recordAll events).recordAll later = link.recordAll (events ++ later) := by
  simp only [recordAll, append_toList_append]

end Link

/-- A way of telling that does no more than note changes of the link for every observer. -/
def Tell.Announces (tell : Tell) (count : Nat) : Prop :=
  ∀ notices link, (∀ n ∈ notices, n.isChange = true) →
    tell notices link = link.recordAll (announcement count notices)

namespace Observers

/-- No observer makes a call when it hears of the link itself: calls come from inside the callbacks
for what has arrived. -/
def Discreet (observers : Observers) : Prop :=
  ∀ history observer notice, notice.isChange = true →
    observers.react history observer notice = []

/-- An observer makes no call when it is told a frame. -/
def QuietAtFrames (observers : Observers) (observer : Nat) : Prop :=
  ∀ history raw, observers.react history observer (.frame raw) = []

/-- Discreet observers make no calls when the link changes, so telling them of it does nothing but
note that they were told. -/
theorem tellAll_changes {observers : Observers} (h : observers.Discreet)
    {calls : List Call → Link → Link} (hcalls : ∀ link, calls [] link = link)
    {notices : List Notice} (hnotices : ∀ n ∈ notices, n.isChange = true) (link : Link) :
    observers.tellAll calls notices link =
      link.recordAll (announcement observers.count notices) := by
  -- One observer's turn, in which nothing is called and all is noted.
  have hturn (o : Nat) (link : Link) : notices.foldl
      (fun link notice => observers.tellOne calls o notice link) link =
        link.recordAll (notices.map (.told o)) := by
    induction notices generalizing link with
    | nil => simp
    | cons n notices ih =>
      have hone : observers.tellOne calls o n link = link.recordAll [.told o n] := by
        unfold tellOne
        simp only
        rw [h _ o n (hnotices n List.mem_cons_self), hcalls, Link.record_eq]
      rw [List.foldl_cons, hone, ih fun m hm => hnotices m (List.mem_cons_of_mem _ hm)]
      simp
  unfold tellAll announcement
  simp only [hturn]
  generalize List.range observers.count = os
  induction os generalizing link with
  | nil => simp
  | cons o os ih => simp [ih]

theorem announces_tell {observers : Observers} (h : observers.Discreet) (depth : Nat) :
    (observers.tell depth).Announces observers.count := by
  intro notices link hnotices
  cases depth with
  | zero => exact tellAll_changes h (fun _ => rfl) hnotices link
  | succ depth => exact tellAll_changes h (fun _ => by rw [Link.performAll]) hnotices link

end Observers
end SensorLink
