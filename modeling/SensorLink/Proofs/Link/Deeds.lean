import SensorLink.Link.Circuit
import SensorLink.Proofs.Link.Counters

/-!
# What calls do to the router's end

A call on a link may take a connection or send bytes, and so may every call that is made from inside
it. Of a connection the observers are told, and of a send there is the answer to the one who made
it; both are events of the link. So

> **what is done to the router's end is just what the events tell, in the order in which they tell
> it** (`performed_perform`, `candid_readPiece`),

and the bytes that are counted are those of the sends. A deed is done first and told by the event
that comes next (`Performed.noted`, `Tell.Candid`): nothing comes between a connection and the first
word of it, nor between a send that has succeeded and its answer.
-/

namespace SensorLink

/-! ## The router's end -/

namespace RouterEnd

/-- Takes in what was sent. No bytes at all are never written. -/
def takeIn (bytes : Bytes) (router : RouterEnd) : RouterEnd :=
  if bytes.isEmpty then router else router.write bytes

theorem connections_takeIn (bytes : Bytes) (router : RouterEnd) :
    (router.takeIn bytes).connections = router.connections := by
  unfold takeIn
  split <;> rfl

/-- One router's end comes of another by some deeds. Sends need a connection. -/
inductive Undergoes : RouterEnd → List Deed → RouterEnd → Prop where
  | nothing (router : RouterEnd) : Undergoes router [] router
  | accepted {router after : RouterEnd} {deeds : List Deed}
      (later : Undergoes router.accept deeds after) : Undergoes router (.accepted :: deeds) after
  | sent {router after : RouterEnd} {bytes : Bytes} {deeds : List Deed}
      (hsession : router.session.isSome) (later : Undergoes (router.takeIn bytes) deeds after) :
      Undergoes router (.sent bytes :: deeds) after

theorem Undergoes.append {a b c : RouterEnd} {deeds more : List Deed} (h : Undergoes a deeds b)
    (h' : Undergoes b more c) : Undergoes a (deeds ++ more) c := by
  induction h with
  | nothing => exact h'
  | accepted _ ih => exact .accepted (ih h')
  | sent hsession _ ih => exact .sent hsession (ih h')

end RouterEnd

theorem Notice.eq_accepted (n : Notice) {deed : Deed} (h : n.deed? = some deed) :
    deed = .accepted := by
  unfold Notice.deed? at h
  split at h
  · exact (Option.some.inj h).symm
  · cases h

/-- The bytes that a deed has sent. -/
def Deed.size : Deed → Nat
  | .accepted => 0
  | .sent bytes => bytes.length

theorem sendsOf_eq_nil {deeds : List Deed} (h : ∀ deed ∈ deeds, deed = .accepted)
    (connection : Nat) : sendsOf connection deeds = [] := by
  induction deeds generalizing connection with
  | nil => rfl
  | cons deed deeds ih =>
    rw [h deed List.mem_cons_self]
    exact ih (fun d hd => h d (List.mem_cons_of_mem _ hd)) (connection + 1)

/-! ## Marks -/

/-- These events tell these deeds. Where nobody is told anything, nobody makes calls from inside
either: then no sends are told, and no connections are. -/
def Marked (count : Nat) (events : List LinkEvent) (deeds : List Deed) : Prop :=
  if count = 0 then events.filterMap LinkEvent.deed? = [] ∧ ∀ deed ∈ deeds, deed = .accepted
  else events.filterMap LinkEvent.deed? = deeds

namespace Marked

variable {count : Nat} {events later : List LinkEvent} {deeds more : List Deed}

theorem nil : Marked count [] [] := by
  unfold Marked
  split
  · exact ⟨rfl, by simp⟩
  · rfl

theorem append (h : Marked count events deeds) (h' : Marked count later more) :
    Marked count (events ++ later) (deeds ++ more) := by
  unfold Marked at *
  rw [List.filterMap_append]
  split at h
  · rw [if_pos ‹_›] at h' ⊢
    obtain ⟨hnone, haccepted⟩ := h
    obtain ⟨hnone', haccepted'⟩ := h'
    refine ⟨by rw [hnone, hnone', List.append_nil], fun deed hdeed => ?_⟩
    rcases List.mem_append.mp hdeed with hdeed | hdeed
    · exact haccepted deed hdeed
    · exact haccepted' deed hdeed
  · rw [if_neg ‹_›] at h' ⊢
    rw [h, h']

theorem of_event (hcount : 0 < count) (event : LinkEvent) :
    Marked count [event] event.deed?.toList := by
  rw [Marked, if_neg (Nat.ne_of_gt hcount)]
  cases h : event.deed? with
  | none => simp [h]
  | some deed => simp [h]

theorem of_none {event : LinkEvent} (h : event.deed? = none) : Marked count [event] [] := by
  unfold Marked
  split
  · exact ⟨by simp [h], by simp⟩
  · simp [h]

theorem eq_nil (h : Marked count events []) : events.filterMap LinkEvent.deed? = [] := by
  unfold Marked at h
  split at h
  · exact h.1
  · exact h

/-- Nothing that matters is lost where nobody is told. -/
theorem sendsOf_eq (h : Marked count events deeds) (connection : Nat) :
    sendsOf connection (events.filterMap LinkEvent.deed?) = sendsOf connection deeds := by
  unfold Marked at h
  split at h
  · rw [h.1, sendsOf_eq_nil h.2]
    rfl
  · rw [h]

end Marked

namespace Link

/-! ## Stretches of a run -/

/-- A link that has a writer has a connection to write on. -/
def Wired (link : Link) : Prop := link.hasWriter = true → link.router.session.isSome = true

/-- What a stretch of a run tells and what it does, which is the same but for what happens at its
ends: a deed is done before it is told. -/
structure Trace (count : Nat) (told done : List Deed) (link after : Link) : Prop where
  events : ∃ events, after.events.toList = link.events.toList ++ events ∧ Marked count events told
  router : link.Wired → after.Wired ∧ link.router.Undergoes done after.router
  sent : after.stats.bytesSent = link.stats.bytesSent + (done.map Deed.size).sum

/-- A stretch of a run that tells all it does. -/
def Candid (count : Nat) (link after : Link) : Prop := ∃ deeds, Trace count deeds deeds link after

namespace Trace

variable {count : Nat} {told done told' done' : List Deed} {a b c : Link}

theorem trans (h : Trace count told done a b) (h' : Trace count told' done' b c) :
    Trace count (told ++ told') (done ++ done') a c where
  events := by
    obtain ⟨events, hevents, hmarked⟩ := h.events
    obtain ⟨later, hlater, hmarked'⟩ := h'.events
    exact ⟨events ++ later, by rw [hlater, hevents, List.append_assoc], hmarked.append hmarked'⟩
  router hwired := by
    obtain ⟨hwired, hdone⟩ := h.router hwired
    obtain ⟨hwired, hdone'⟩ := h'.router hwired
    exact ⟨hwired, hdone.append hdone'⟩
  sent := by rw [h'.sent, h.sent, List.map_append, List.sum_append, Nat.add_assoc]

/-- What is no deed is not told either. -/
theorem silent (hevents : b.events = a.events) (hrouter : b.router = a.router)
    (hwriter : b.hasWriter = true → a.hasWriter = true)
    (hsent : b.stats.bytesSent = a.stats.bytesSent) : Trace count [] [] a b where
  events := ⟨[], by rw [hevents, List.append_nil], .nil⟩
  router hwired := by
    rw [hrouter]
    refine ⟨fun hb => ?_, .nothing _⟩
    rw [hrouter]
    exact hwired (hwriter hb)
  sent := hsent

theorem candid (h : Trace count [] [] a b) : Candid count a b := ⟨[], h⟩

/-- An event tells something and does nothing. -/
theorem record {event : LinkEvent} (h : Marked count [event] told) (link : Link) :
    Trace count told [] link (link.record event) where
  events := ⟨[event], by simp [Link.record], h⟩
  router hwired := ⟨hwired, .nothing _⟩
  sent := rfl

end Trace

namespace Candid

variable {count : Nat} {a b c : Link}

protected theorem refl (link : Link) : Candid count link link :=
  Trace.candid (.silent rfl rfl id rfl)

theorem trans (h : Candid count a b) (h' : Candid count b c) : Candid count a c := by
  obtain ⟨deeds, hdeeds⟩ := h
  obtain ⟨later, hlater⟩ := h'
  exact ⟨deeds ++ later, hdeeds.trans hlater⟩

/-- A deed that is told when it is done. -/
theorem of_told {own : List Deed} (h : Trace count [] own a b)
    (h' : ∃ later, Trace count (own ++ later) later b c) : Candid count a c := by
  obtain ⟨later, hlater⟩ := h'
  exact ⟨own ++ later, h.trans hlater⟩

end Candid

/-- What a call comes to: if it has a deed of its own, that is all it does. -/
inductive Performed (count : Nat) (link : Link) : Option Deed → Link → Prop where
  | quiet {after : Link} (h : Candid count link after) : Performed count link none after
  | sent {after : Link} {bytes : Bytes} (h : Trace count [] [.sent bytes] link after) :
      Performed count link (some (.sent bytes)) after

/-- What is sent in a call is what its events tell, and then its own. -/
theorem Performed.sends {count : Nat} {link after : Link} {own : Option Deed}
    (h : Performed count link own after) : ∃ done, (link.Wired → after.Wired ∧
        link.router.Undergoes done after.router) ∧
      after.stats.bytesSent = link.stats.bytesSent + (done.map Deed.size).sum ∧
      ∀ connection, sendsOf connection
        ((after.events.toList.drop link.events.size).filterMap LinkEvent.deed? ++ own.toList) =
          sendsOf connection done := by
  have hdrop {events : List LinkEvent}
      (hevents : after.events.toList = link.events.toList ++ events) :
      after.events.toList.drop link.events.size = events := by
    rw [hevents, ← Array.length_toList, List.drop_left]
  cases h with
  | quiet h =>
    obtain ⟨done, ⟨events, hevents, hmarked⟩, hrouter, hsent⟩ := h
    refine ⟨done, hrouter, hsent, fun connection => ?_⟩
    rw [hdrop hevents, Option.toList_none, List.append_nil, hmarked.sendsOf_eq]
  | @sent _ bytes h =>
    obtain ⟨⟨events, hevents, hmarked⟩, hrouter, hsent⟩ := h
    refine ⟨[.sent bytes], hrouter, hsent, fun connection => ?_⟩
    have hnone : events.filterMap LinkEvent.deed? = [] := hmarked.eq_nil
    rw [hdrop hevents, hnone]
    rfl

/-- When its answer has been noted, it has told all it has done. -/
theorem Performed.noted {count : Nat} {link after : Link} {own : Option Deed}
    (h : Performed count link own after) (hcount : 0 < count) {event : LinkEvent}
    (hevent : event.deed? = own) : Candid count link (after.record event) := by
  have hrecord := Trace.record (.of_event hcount event) after
  rw [hevent] at hrecord
  cases h with
  | quiet h => exact h.trans (Trace.candid hrecord)
  | sent h => exact .of_told h ⟨[], hrecord⟩

end Link

/-- A way of telling observers in which they hear of a deed before they can do another, and do none
that is not told. -/
structure Tell.Candid (tell : Tell) (count : Nat) : Prop where
  tells : ∀ (n : Notice) (notices : List Notice) (link : Link), (∀ m ∈ notices, m.deed? = none) →
    ∃ deeds, Link.Trace count (n.deed?.toList ++ deeds) deeds link (tell (n :: notices) link)
  connecting : ∀ notices link, link.state = .connecting → (tell notices link).state = .connecting

namespace Link

/-! ## Operations -/

section Operations

variable {tell : Tell} {count : Nat} (htell : tell.Candid count)
include htell

/-- Something is told of which nothing was said before. -/
theorem candid_tell {before link : Link} {n : Notice} {notices : List Notice}
    (h : Trace count [] n.deed?.toList before link) (hnotices : ∀ m ∈ notices, m.deed? = none) :
    Candid count before (tell (n :: notices) link) :=
  .of_told h (htell.tells n notices link hnotices)

theorem candid_publish {before link : Link} {state : LinkState}
    (h : Trace count [] (Notice.deed? (.state state)).toList before link) :
    Candid count before (publish tell state link) := by
  have hpublished : Trace count [] [] link
      { link with inbox := { link.inbox with state := link.inbox.state.publish state } } :=
    .silent rfl rfl id rfl
  have htold := h.trans hpublished
  simp only [List.append_nil] at htold
  exact candid_tell htell htold (by simp)

theorem candid_disconnect (link : Link) : Candid count link (enter tell .disconnected link) := by
  unfold enter
  split
  · exact .refl link
  · exact candid_publish htell (.silent rfl rfl id rfl)

omit htell in
theorem candid_stopReader (connection : Nat) (link : Link) :
    Candid count link (link.stopReader connection) :=
  Trace.candid (.silent rfl rfl id rfl)

omit htell in
theorem candid_reap (link : Link) : Candid count link link.reap := by
  unfold reap
  split
  · exact .refl link
  · exact Trace.candid (.silent rfl rfl id rfl)

theorem candid_breakDown (cause : LinkLoss) (link : Link) :
    Candid count link (breakDown tell cause link) := by
  unfold breakDown
  split
  · exact .refl link
  · have hdown : Trace count [] [] link { link with state := .disconnected, hasWriter := false } :=
      .silent rfl rfl (by simp) rfl
    have htold : Candid count link (tell [.error (.linkLost cause)] _) :=
      candid_tell htell hdown (by simp)
    exact htold.trans (candid_publish htell (.silent rfl rfl id rfl))

theorem candid_lose (cause : LinkLoss) (link : Link) :
    Candid count link (lose tell cause link) := by
  unfold lose
  split
  · exact candid_breakDown htell cause link
  · split
    · exact (candid_stopReader _ link).trans (candid_breakDown htell cause _)
    · exact .refl link

theorem candid_endReader (connection : Nat) (cause : LinkLoss) (link : Link) :
    Candid count link (endReader tell connection cause link) := by
  unfold endReader
  split
  · exact (candid_lose htell cause link).trans (candid_stopReader connection _)
  · exact .refl link

/-- A send writes all of its bytes and says so, or none. -/
theorem performed_finishSend (bytes : Bytes) (failure : Option String) (link : Link) :
    Performed count link
      (if (finishSend tell bytes failure link).1 then some (.sent bytes) else none)
      (finishSend tell bytes failure link).2 := by
  unfold finishSend
  split
  · exact .quiet (.refl link)
  rename_i hwriter
  have hwriter : link.hasWriter = true := by simpa using hwriter
  split
  · rename_i hempty
    have hrouter : link.router.takeIn bytes = link.router := if_pos hempty
    exact .sent {
      events := ⟨[], by simp, .nil⟩
      router := fun hwired => ⟨hwired, .sent (hwired hwriter) (by rw [hrouter]; exact .nothing _)⟩
      sent := by simp [Deed.size, List.isEmpty_iff.mp hempty] }
  · rename_i hnonempty
    have hrouter : link.router.takeIn bytes = link.router.write bytes := if_neg hnonempty
    split
    · exact .quiet (candid_lose htell _ link)
    · exact .sent {
        events := ⟨[], by simp [Link.count], .nil⟩
        router := fun hwired =>
          ⟨fun _ => by simpa [Link.count, RouterEnd.write] using hwired hwriter,
            .sent (hwired hwriter) (by rw [hrouter]; exact .nothing _)⟩
        sent := by simp [Link.count, Deed.size] }

theorem candid_close (link : Link) : Candid count link (close tell link) := by
  unfold close
  split
  · exact .refl link
  · have htold : Candid count link
        (publish tell .closing { link with state := .closing, closing := true }) :=
      candid_publish htell (.silent rfl rfl id rfl)
    generalize publish tell .closing { link with state := .closing, closing := true } = told
      at htold
    have hwriter : Candid count told { told with hasWriter := false } :=
      Trace.candid (.silent rfl rfl (by simp) rfl)
    have hclosed (down : Link) : Candid count down { down with closing := false } :=
      Trace.candid (.silent rfl rfl id rfl)
    have hdropped := (htold.trans hwriter).trans (candid_reap _)
    exact (hdropped.trans (candid_disconnect htell _)).trans (hclosed _)

theorem candid_dial (link : Link) :
    let dialled := (reap (publish tell .connecting { link with state := .connecting })).count
      fun s => { s with connectionAttempts := s.connectionAttempts + 1 }
    Candid count link dialled ∧ dialled.state = .connecting := by
  intro dialled
  have htold : Candid count link (publish tell .connecting { link with state := .connecting }) :=
    candid_publish htell (.silent rfl rfl id rfl)
  refine ⟨(htold.trans (candid_reap _)).trans (Trace.candid (.silent rfl rfl id rfl)), ?_⟩
  exact (state_reap _).trans (htell.connecting _ _ rfl)

theorem candid_startReader (connection : Nat) (link : Link) :
    Candid count link (startReader tell connection link) := by
  have hstarted : Candid count link
      { link with
        handle := some connection
        readers := ⟨connection, .fresh .routerToHost⟩ :: link.readers } :=
    Trace.candid (.silent rfl rfl id rfl)
  unfold startReader
  dsimp only
  split
  · exact hstarted
  · exact hstarted.trans (candid_endReader htell _ _ _)

/-- The router takes the connection, and then everybody is told. -/
theorem candid_accept {link : Link} (hstate : link.state = .connecting) :
    Candid count link (startReader tell link.router.accept.connections
      (enter tell .connected { link with router := link.router.accept, hasWriter := true })) := by
  have haccepted : Trace count [] (Notice.deed? (.state .connected)).toList link
      { link with router := link.router.accept, hasWriter := true, state := .connected } :=
    { events := ⟨[], by simp, .nil⟩
      router := fun _ => ⟨fun _ => rfl, .accepted (.nothing _)⟩
      sent := rfl }
  have hchanges : link.state ≠ .connected := by simp [hstate]
  rw [enter, if_neg hchanges]
  exact (candid_publish htell haccepted).trans (candid_startReader htell _ _)

/-- `inside` may be anything that tells all it does and leaves the link connecting. -/
theorem candid_connectWhile {inside : Link → Link}
    (hinside : ∀ link, link.state = .connecting →
      Candid count link (inside link) ∧ (inside link).state = .connecting)
    (link : Link) : Candid count link (connectWhile tell inside link).2 := by
  obtain ⟨hdial, hstate⟩ := candid_dial htell link
  obtain ⟨hcame, hstate⟩ := hinside _ hstate
  have hcame := hdial.trans hcame
  have hdown := hcame.trans (candid_disconnect htell _)
  have hup := hcame.trans (candid_accept htell hstate)
  unfold connectWhile
  split
  · exact .refl link
  · cases link.state with
    | connected | connecting => exact .refl link
    | disconnected | closing =>
      simp only
      split
      · exact hdown
      · exact hup

end Operations

/-! ## Calls -/

section Calls

variable {tell : Tell} {count : Nat}

/-- What is called while the router is being connected comes to nothing. -/
theorem candid_performAll_connecting (calls : List Call) {link : Link}
    (h : link.state = .connecting) :
    Candid count link (performAll tell .duringConnect calls link) := by
  induction calls generalizing link with
  | nil =>
    rw [performAll]
    exact .refl link
  | cons call calls ih =>
    rw [performAll, perform_connecting h]
    dsimp only
    have hrefused : call.deed? call.answerWhileConnecting = none := by cases call <;> rfl
    have hnote (r : CallRecord) (hr : r.call.deed? r.answer = none) :
        Marked count [.duringConnect r] [] :=
      .of_none hr
    exact .trans (Trace.candid (.record (hnote _ hrefused) link)) (ih h)

/-- What a send says is what it has done. -/
theorem performed_send (htell : tell.Candid count) (bytes : Bytes) (failure : Option String)
    (link : Link) :
    Performed count link
      ((Call.send bytes failure).deed? (.sent (send tell bytes failure link).1))
      (send tell bytes failure link).2 := by
  have hown (success : Bool) : (Call.send bytes failure).deed? (.sent success) =
      if success then some (.sent bytes) else none := by
    cases success <;> rfl
  rw [hown, send_eq]
  split
  · exact performed_finishSend htell bytes failure link
  · exact .quiet (.refl link)

/-- **A call tells all it does**, but for its own deed, and that is what its answer says. -/
theorem performed_perform (htell : tell.Candid count) (call : Call) (link : Link) :
    Performed count link (call.deed? (perform tell call link).1) (perform tell call link).2 := by
  cases call with
  | connect during =>
    rw [perform]
    refine .quiet (candid_connectWhile htell (fun link h => ?_) link)
    exact ⟨candid_performAll_connecting during h, state_performAll _ during h⟩
  | close =>
    rw [perform]
    exact .quiet (candid_close htell link)
  | send bytes failure =>
    rw [perform]
    exact performed_send htell bytes failure link
  | state =>
    rw [perform]
    exact .quiet (.refl link)

theorem candid_performAll (htell : tell.Candid count) (hcount : 0 < count) (calls : List Call)
    (link : Link) : Candid count link (performAll tell .fromObserver calls link) := by
  induction calls generalizing link with
  | nil =>
    rw [performAll]
    exact .refl link
  | cons call calls ih =>
    have hcall := performed_perform htell call link
    rw [performAll]
    generalize perform tell call link = result at hcall
    obtain ⟨answer, after⟩ := result
    have hnote (r : CallRecord) (hr : call.deed? answer = r.call.deed? r.answer) :
        Candid count link (after.record (.fromObserver r)) :=
      hcall.noted hcount hr.symm
    exact (hnote _ rfl).trans (ih _)

end Calls
end Link

/-! ## Observers -/

namespace Observers

open Link (Candid Trace)

section Telling

variable (observers : Observers) {count : Nat} {calls : List Call → Link → Link}
  (hcalls : ∀ cs link, Candid count link (calls cs link))
include hcalls

/-- One observer is told one thing and makes its calls. -/
theorem traces_one (hcount : 0 < count) (o : Nat) (n : Notice) (link : Link) :
    ∃ deeds, Trace count ((LinkEvent.told o n).deed?.toList ++ deeds) deeds link
      (observers.tellOne calls o n link) := by
  have htold : Trace count (LinkEvent.told o n).deed?.toList [] link
      (link.record (.told o n)) :=
    .record (.of_event hcount _) link
  obtain ⟨deeds, hdeeds⟩ := hcalls
    (observers.react (link.record (.told o n)).events o n) (link.record (.told o n))
  exact ⟨deeds, htold.trans hdeeds⟩

/-- What it is told further is no deed. -/
theorem candid_turn (hcount : 0 < count) (o : Nat) (notices : List Notice)
    (h : ∀ n ∈ notices, (LinkEvent.told o n).deed? = none) (link : Link) :
    Candid count link
      (notices.foldl (fun link n => observers.tellOne calls o n link) link) := by
  induction notices generalizing link with
  | nil => exact .refl link
  | cons n notices ih =>
    obtain ⟨deeds, hdeeds⟩ := traces_one observers hcalls hcount o n link
    rw [h n List.mem_cons_self] at hdeeds
    exact .trans ⟨deeds, hdeeds⟩ (ih (fun m hm => h m (List.mem_cons_of_mem _ hm)) _)

/-- The turns after that of the first observer. -/
theorem candid_turns (hcount : 0 < count) (turns : List Nat) (hturns : ∀ o ∈ turns, o ≠ 0)
    (notices : List Notice) (link : Link) :
    Candid count link (turns.foldl (fun link o =>
      notices.foldl (fun link n => observers.tellOne calls o n link) link) link) := by
  induction turns generalizing link with
  | nil => exact .refl link
  | cons o turns ih =>
    have hturn : Candid count link
        (notices.foldl (fun link n => observers.tellOne calls o n link) link) :=
      candid_turn observers hcalls hcount o notices
        (fun n _ => if_neg (hturns o List.mem_cons_self)) link
    exact hturn.trans (ih (fun o ho => hturns o (List.mem_cons_of_mem _ ho)) _)

end Telling

/-- Where there are observers, the first of them hears of a deed before anyone can do another. -/
theorem traces_tellAll {observers : Observers} {calls : List Call → Link → Link}
    (hcalls : 0 < observers.count → ∀ cs link, Candid observers.count link (calls cs link))
    (n : Notice) (notices : List Notice) (link : Link) (hnotices : ∀ m ∈ notices, m.deed? = none) :
    ∃ deeds, Trace observers.count (n.deed?.toList ++ deeds) deeds link
      (observers.tellAll calls (n :: notices) link) := by
  cases hcount : observers.count with
  | zero =>
    rw [tellAll_of_count_eq_zero hcount]
    refine ⟨[], ⟨[], by simp [nobody], ?_⟩, fun hwired => ⟨hwired, .nothing _⟩, rfl⟩
    exact ⟨rfl, fun deed hdeed => n.eq_accepted (by simpa using hdeed)⟩
  | succ others =>
    have hpos : 0 < observers.count := by omega
    have hcalls := hcalls hpos
    -- The first observer's first turn is told apart: it is the one that bears the deed.
    have hturns : observers.tellAll calls (n :: notices) link =
        ((List.range others).map Nat.succ).foldl (fun link o =>
          (n :: notices).foldl (fun link n => observers.tellOne calls o n link) link)
        (notices.foldl (fun link n => observers.tellOne calls 0 n link)
          (observers.tellOne calls 0 n link)) := by
      rw [tellAll, hcount, List.range_succ_eq_map]
      rfl
    rw [hturns, ← hcount]
    obtain ⟨first, hfirst⟩ := traces_one observers hcalls hpos 0 n link
    obtain ⟨later, hlater⟩ := Candid.trans
      (candid_turn observers hcalls hpos 0 notices hnotices _)
      (candid_turns observers hcalls hpos ((List.range others).map Nat.succ) (by simp) (n :: notices) _)
    refine ⟨first ++ later, ?_⟩
    rw [← List.append_assoc]
    exact hfirst.trans hlater

/-- **Observers tell of every deed**, whatever they call, at any depth. -/
theorem candid_tell (observers : Observers) (depth : Nat) :
    (observers.tell depth).Candid observers.count := by
  have hconnecting := (observers.fair_tell depth).connecting
  induction depth with
  | zero =>
    exact ⟨traces_tellAll fun _ _ link => .refl link, hconnecting⟩
  | succ depth ih =>
    have htell := ih (observers.fair_tell depth).connecting
    exact ⟨traces_tellAll fun hcount cs link => Link.candid_performAll htell hcount cs link,
      hconnecting⟩

end Observers

/-! ## Reading -/

namespace Link

variable {tell : Tell} {count : Nat} (htell : tell.Candid count)
include htell

theorem candid_dispatch (event : FramerEvent) (link : Link) :
    Candid count link (dispatch tell link event) := by
  cases event with
  | packet p raw =>
    have htold : Candid count link (tell [.frame raw, .packet p]
        (link.count fun s => { s with packetsReceived := s.packetsReceived + 1 })) :=
      candid_tell htell (.silent rfl rfl id rfl) (by simp [Notice.deed?])
    exact htold.trans (Trace.candid (.silent rfl rfl id rfl))
  | discarded cause dropped =>
    exact candid_tell htell (.silent rfl rfl id rfl) (by simp)

theorem candid_dispatchAll (found : List FramerEvent) (link : Link) :
    Candid count link (found.foldl (dispatch tell) link) := by
  induction found generalizing link with
  | nil => exact .refl link
  | cons event found ih => exact (candid_dispatch htell event link).trans (ih _)

/-- Reading a piece tells all that comes of it. -/
theorem candid_readPiece (connection : Nat) (piece : Bytes) (link : Link) :
    Candid count link (readPiece tell connection piece link) := by
  unfold readPiece
  split
  · exact .refl link
  · rename_i reader _
    have hreceived : Candid count link
        (link.count fun s => { s with bytesReceived := s.bytesReceived + piece.length }) :=
      Trace.candid (.silent rfl rfl id rfl)
    have hfound := hreceived.trans
      (candid_dispatchAll htell (reader.framer.push piece).drain.1 _)
    exact hfound.trans (Trace.candid (.silent rfl rfl id rfl))

end Link

/-! ## Steps of a line -/

namespace Line

open Link (Candid Performed Trace)

variable {tell : Tell} {count : Nat} (htell : tell.Candid count)
include htell

theorem candid_read (line : Line) : Candid count line.link (line.read tell).link := by
  unfold Line.read
  split
  · split
    · split
      · exact .refl _
      · exact Link.candid_endReader htell _ _ _
    · dsimp only
      split
      · exact Link.candid_endReader htell _ _ _
      · exact Link.candid_readPiece htell _ _ _
  · exact .refl _

/-- A step tells all it does, but for its own deed. Where the router's end is changed from outside
there is no deed. -/
theorem performed_step (line : Line) (move : Move) (hrefuse : ∀ r, move ≠ .refuse r)
    (hhang : move ≠ .hangUp) :
    Performed count line.link (move.deed? tell line) (line.step tell move).link := by
  cases move with
  | call call => exact Link.performed_perform htell call line.link
  | refuse refusing => exact absurd rfl (hrefuse refusing)
  | hangUp => exact absurd rfl hhang
  | inject bytes =>
    refine .quiet ?_
    unfold step inject
    dsimp only
    split
    · exact .refl _
    · exact .refl _
  | read => exact .quiet (candid_read htell line)
  | failRead failure =>
    refine .quiet ?_
    cases failure with
    | transient => exact .refl _
    | fatal reason => exact Link.candid_endReader htell _ _ _

end Line
end SensorLink
