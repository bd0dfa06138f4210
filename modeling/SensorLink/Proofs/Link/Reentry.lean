import SensorLink.Proofs.Link.Books

/-!
# Calls from inside the news of a link

An observer that is told of a change of the link may call the link at once, before the operation
that has made the change is done. Two such calls come between an operation and what it has still to
do. An observer that connects the link again when it hears that it is lost has a link that is up,
and is then told that it is down, since the loss is published when all have heard of it. An observer
that closes the link when it hears that it is connected leaves it down, and then the reader of the
connection is started. Both are runs (`reentry_at_odds`).

They are the only ones. Any other call that is made from inside the news of a change finds the link
in a state in which it does no more than write, or nothing (`murmur_perform`):

> **if no observer closes the link or fails a write when it hears that the link is up, or connects
> it when it hears that it is lost, then after every step the state, its watchers, its observers and
> its readers agree** (`synchronised`).

What the observers call from inside the callbacks for what has arrived is not restricted, nor is it
while the link is connecting.
-/

namespace SensorLink

/-! ## What may be called when -/

/-- The state of the link when a change is told. -/
def Notice.leaves : Notice → Option LinkState
  | .state s => some s
  | .error (.linkLost _) => some .disconnected
  | _ => none

/-- The calls that may be made when a notice is told. Nobody calls a link that is closing or has
been closed, which would wait for the close that it stands in. -/
def Notice.Allows : Notice → Call → Prop
  | .state .connected, .close => False
  | .state .connected, .send bytes failure => bytes = [] ∨ failure = none
  | .state .closing, _ => False
  | .state .disconnected, _ => False
  | .error (.linkLost _), .connect _ => False
  | _, _ => True

/-- Observers that make only such calls. -/
def Observers.Steady (observers : Observers) : Prop :=
  ∀ history o notice, ∀ call ∈ observers.react history o notice, notice.Allows call

/-- Observers that make no calls from inside a close. -/
def Observers.Unlocked (observers : Observers) : Prop :=
  ∀ history o state, state = .closing ∨ state = .disconnected →
    observers.react history o (.state state) = []

theorem believed_append (s : LinkState) (notices more : List Notice) :
    believed s (notices ++ more) = believed (believed s notices) more := by
  simp only [believed, statesOf, List.filterMap_append, List.getLastD_eq_getLast?,
    List.getLast?_append]
  cases (more.filterMap Notice.state?).getLast? <;> rfl

namespace Link

/-! ## Murmurs -/

/-- The parts of a link that make it settled or not are the same. -/
structure SameParts (link after : Link) : Prop where
  state : after.state = link.state
  hasWriter : after.hasWriter = link.hasWriter
  readers : after.readers = link.readers
  handle : after.handle = link.handle
  closing : after.closing = link.closing
  connections : after.router.connections = link.router.connections

/-- Something was told, and what was called meanwhile has done no more than write. -/
structure Murmur (told : Nat → List Notice) (link after : Link) : Prop extends
    SameParts link after where
  events : ∃ events : List LinkEvent, after.events.toList = link.events.toList ++ events ∧
    ∀ o, heard o events = told o
  inbox : after.inbox = link.inbox

theorem SameParts.trans {a b c : Link} (h : SameParts a b) (h' : SameParts b c) :
    SameParts a c where
  state := h'.state.trans h.state
  hasWriter := h'.hasWriter.trans h.hasWriter
  readers := h'.readers.trans h.readers
  handle := h'.handle.trans h.handle
  closing := h'.closing.trans h.closing
  connections := h'.connections.trans h.connections

namespace Murmur

variable {told later : Nat → List Notice} {a b c : Link}

protected theorem refl (link : Link) : Murmur (fun _ => []) link link where
  toSameParts := ⟨rfl, rfl, rfl, rfl, rfl, rfl⟩
  events := ⟨[], by simp, fun _ => rfl⟩
  inbox := rfl

/-- Two murmurs in turn are one, and each observer is told what it was told in both. -/
theorem trans (h : Murmur told a b) (h' : Murmur later b c) :
    Murmur (fun o => told o ++ later o) a c where
  toSameParts := h.toSameParts.trans h'.toSameParts
  events := by
    obtain ⟨events, hevents, htold⟩ := h.events
    obtain ⟨more, hmore, hlater⟩ := h'.events
    refine ⟨events ++ more, ?_, fun o => ?_⟩
    · rw [hmore, hevents, List.append_assoc]
    · rw [heard_append, htold, hlater]
  inbox := h'.inbox.trans h.inbox

theorem congr (h : Murmur told a b) (hsame : ∀ o, told o = later o) : Murmur later a b := by
  rwa [← funext hsame]

theorem record (event : LinkEvent) (link : Link) :
    Murmur (fun o => heard o [event]) link (link.record event) where
  toSameParts := ⟨rfl, rfl, rfl, rfl, rfl, rfl⟩
  events := ⟨[event], by simp [Link.record], fun _ => rfl⟩
  inbox := rfl

end Murmur

section Allowed

variable (tell : Tell) {link : Link} {call : Call}

/-- From inside the news that it is up, a link takes writes and answers questions; connecting it
again is no news. -/
theorem murmur_connected (hstate : link.state = .connected)
    (hallowed : Notice.Allows (.state .connected) call) :
    Murmur (fun _ => []) link (perform tell call link).2 := by
  cases call with
  | connect during =>
    rw [perform]
    show Murmur (fun _ => []) link (connectWhile tell _ link).2
    rw [connectWhile, hstate]
    split
    · exact .refl link
    · exact .refl link
  | close => exact hallowed.elim
  | send bytes failure =>
    rw [perform]
    show Murmur (fun _ => []) link (send tell bytes failure link).2
    unfold send
    split
    · exact .refl link
    split
    · exact .refl link
    · rename_i hfilled
      have hnone : failure = none := hallowed.resolve_left fun hempty => hfilled (by simp [hempty])
      subst hnone
      -- The frame is written, and that is all.
      exact
        { toSameParts := ⟨rfl, rfl, rfl, rfl, rfl, rfl⟩
          events := ⟨[], by simp [Link.count], fun _ => rfl⟩
          inbox := rfl }
  | state => exact .refl link

/-- From inside the news that it is lost, a link cannot be closed and takes no writes, so it stays
as the loss has left it. -/
theorem murmur_disconnected {cause : LinkLoss} (hstate : link.state = .disconnected)
    (hallowed : Notice.Allows (.error (.linkLost cause)) call) :
    Murmur (fun _ => []) link (perform tell call link).2 := by
  cases call with
  | connect during => exact hallowed.elim
  | close =>
    rw [perform, close, if_pos (.inr (by simp [hstate]))]
    exact .refl link
  | send bytes failure =>
    have hrefused : send tell bytes failure link = (false, link) := by
      unfold send
      rw [if_pos (.inl (by simp [hstate]))]
    rw [perform, hrefused]
    exact .refl link
  | state => exact .refl link

/-- **What may be called when a change is told does no more than write.** -/
theorem murmur_perform {notice : Notice} (hchange : notice.leaves = some link.state)
    (hallowed : notice.Allows call) : Murmur (fun _ => []) link (perform tell call link).2 := by
  cases notice with
  | state s =>
    have hstate : s = link.state := Option.some.inj hchange
    subst hstate
    cases hs : link.state with
    | connecting =>
      rw [perform_connecting hs]
      exact .refl link
    | connected =>
      rw [hs] at hallowed
      exact murmur_connected tell hs hallowed
    | closing | disconnected =>
      rw [hs] at hallowed
      exact hallowed.elim
  | error e =>
    cases e with
    | linkLost cause => exact murmur_disconnected tell (Option.some.inj hchange).symm hallowed
    | _ => cases hchange
  | frame raw | packet p => cases hchange

end Allowed

theorem heard_fromObserver (o : Nat) (r : CallRecord) : heard o [.fromObserver r] = [] := rfl

/-- Each call finds the link as the one before has found it. -/
theorem murmur_performAll (tell : Tell) {notice : Notice} {link : Link} {calls : List Call}
    (hchange : notice.leaves = some link.state) (hallowed : ∀ call ∈ calls, notice.Allows call) :
    Murmur (fun _ => []) link (performAll tell .fromObserver calls link) := by
  induction calls generalizing link with
  | nil => exact .refl link
  | cons call calls ih =>
    have hcall := murmur_perform tell hchange (hallowed call List.mem_cons_self)
    rw [performAll]
    generalize perform tell call link = result at hcall
    obtain ⟨answer, after⟩ := result
    have hnoted := hcall.trans
      (.record (.fromObserver ⟨call, link.state, link.hasWriter, answer⟩) after)
    have hstate := hnoted.state
    have hrest := ih (hchange.trans (congrArg some hstate.symm))
      fun c hc => hallowed c (List.mem_cons_of_mem _ hc)
    exact (hnoted.trans hrest).congr fun o => by simp [heard_fromObserver]

/-! ## Telling -/

end Link

/-- A way of telling of changes of the link that does no more than write. -/
def Tell.Murmurs (tell : Tell) (count : Nat) : Prop :=
  ∀ notice link, notice.leaves = some link.state →
    Link.Murmur (fun o => if o < count then [notice] else []) link (tell [notice] link)

namespace Observers

open Link (Murmur)

variable {observers : Observers}

theorem murmurs_tellAll {calls : List Call → Link → Link}
    (hcalls : ∀ history o notice link, notice.leaves = some link.state →
      Murmur (fun _ => []) link (calls (observers.react history o notice) link)) :
    Tell.Murmurs (observers.tellAll calls) observers.count := by
  intro notice link hchange
  have hturn (o : Nat) {link : Link} (hchange : notice.leaves = some link.state) :
      Murmur (fun o' => if o = o' then [notice] else []) link
        (observers.tellOne calls o notice link) := by
    have hcall := hcalls (link.record (.told o notice)).events o notice
      (link.record (.told o notice)) hchange
    refine ((Murmur.record (.told o notice) link).trans hcall).congr fun o' => ?_
    simpa using heard_map_told o' o [notice]
  show Murmur _ link ((List.range observers.count).foldl
    (fun link o => observers.tellOne calls o notice link) link)
  induction observers.count with
  | zero => exact .refl link
  | succ turns ih =>
    rw [List.range_succ, List.foldl_append]
    have hlast := hturn turns (hchange.trans (congrArg some ih.state.symm))
    exact (ih.trans hlast).congr fun o => next_turn o turns [notice]

/-- **Steady observers murmur, however deep their calls stand in one another**: the next level has
nothing to tell. -/
theorem murmurs_tell (h : observers.Steady) (depth : Nat) :
    (observers.tell depth).Murmurs observers.count := by
  cases depth with
  | zero => exact murmurs_tellAll fun _ _ _ link _ => .refl link
  | succ depth =>
    exact murmurs_tellAll fun history o notice _ hchange =>
      Link.murmur_performAll _ hchange (h history o notice)

end Observers

namespace Link

variable {tell : Tell} {count : Nat} {link after : Link}

/-! ## Agreement -/

/-- Whoever watches the link and whoever observes it knows its state. -/
structure InTune (count : Nat) (link : Link) : Prop where
  isOpen : link.inbox.state.closed = false
  watched : link.inbox.state.value = link.state
  believed : ∀ o < count, believed .disconnected (heard o link.events.toList) = link.state

theorem InTune.of_eq (h : link.InTune count) (hstate : after.state = link.state)
    (hinbox : after.inbox.state = link.inbox.state) (hevents : after.events = link.events) :
    after.InTune count where
  isOpen := hinbox ▸ h.isOpen
  watched := by rw [hinbox, hstate, h.watched]
  believed o ho := by rw [hevents, hstate, h.believed o ho]

theorem InTune.recordAll (h : link.InTune count) {events : List LinkEvent}
    (hevents : ∀ o < count, statesOf (heard o events) = []) :
    (link.recordAll events).InTune count where
  isOpen := h.isOpen
  watched := h.watched
  believed o ho := by
    show SensorLink.believed .disconnected (heard o (link.events ++ events).toList) = link.state
    rw [Array.toList_appendList, heard_append, believed_append, h.believed o ho]
    unfold SensorLink.believed
    rw [hevents o ho]
    rfl

/-- A state that was entered is known when it has been published. -/
theorem publish_inTune (htell : tell.Murmurs count) (link : Link) {state : LinkState}
    (hstate : link.state = state) (hopen : link.inbox.state.closed = false) :
    SameParts link (publish tell state link) ∧ (publish tell state link).InTune count := by
  subst hstate
  have htold := htell (.state link.state)
    { link with inbox := { link.inbox with state := link.inbox.state.publish link.state } } rfl
  obtain ⟨events, hevents, hheard⟩ := htold.events
  have hpublished : SameParts link
      { link with inbox := { link.inbox with state := link.inbox.state.publish link.state } } :=
    ⟨rfl, rfl, rfl, rfl, rfl, rfl⟩
  refine ⟨hpublished.trans htold.toSameParts, ?_, ?_, fun o ho => ?_⟩
  · rw [publish, htold.inbox]
    simp [Watch.publish, hopen]
  · rw [publish, htold.inbox, htold.state]
    simp [Watch.publish, hopen]
  · rw [publish, hevents, heard_append, believed_append, hheard, if_pos ho, htold.state]
    rfl

/-- A link that is down or up, and known to be. -/
structure Harmonious (count : Nat) (link : Link) : Prop extends InTune count link where
  settled : link.Settled

/-- The harmony of a link is in a few fields; what is counted and what was written are not among
them. -/
theorem Harmonious.of_eq (h : link.Harmonious count) (hparts : SameParts link after)
    (hinbox : after.inbox.state = link.inbox.state) (hevents : after.events = link.events) :
    after.Harmonious count where
  toInTune := h.toInTune.of_eq hparts.state hinbox hevents
  settled := h.settled.of_eq hparts.state hparts.hasWriter hparts.readers hparts.handle
    hparts.closing hparts.connections

theorem Harmonious.recordAll (h : link.Harmonious count) {events : List LinkEvent}
    (hevents : ∀ o < count, statesOf (heard o events) = []) :
    (link.recordAll events).Harmonious count where
  toInTune := h.toInTune.recordAll hevents
  settled := h.settled.recordAll

/-! ## Calls -/

section Calls

variable (htell : tell.Murmurs count)
include htell

theorem lose_up_inTune {framer : Framer} (hup : link.Up framer)
    (hopen : link.inbox.state.closed = false) (cause : LinkLoss) :
    (lose tell cause link).Down ∧ (lose tell cause link).InTune count := by
  let broken : Link :=
    { link.stopReader link.router.connections with state := .disconnected, hasWriter := false }
  have hreaders : broken.readers = [] := by simp [broken, stopReader, hup.readers]
  have hlost := htell (.error (.linkLost cause)) broken rfl
  have hstate : (tell [.error (.linkLost cause)] broken).state = .disconnected := hlost.state
  have hopen' : (tell [.error (.linkLost cause)] broken).inbox.state.closed = false := by
    rw [hlost.inbox]
    exact hopen
  have hlose : lose tell cause link =
      publish tell .disconnected (tell [.error (.linkLost cause)] broken) := by
    rw [lose, hup.handle]
    dsimp only
    rw [if_pos hup.isReading, breakDown, if_neg]
    exact fun hne => hne hup.state
  obtain ⟨hparts, htune⟩ := publish_inTune htell _ hstate hopen'
  rw [hlose]
  have hall := hlost.toSameParts.trans hparts
  exact ⟨⟨hall.state, hall.hasWriter, hall.readers.trans hreaders,
    hall.closing.trans hup.closing⟩, htune⟩

/-- A loss is over, and known to everyone, before the next thing happens. -/
theorem harmonious_lose (h : link.Harmonious count) (cause : LinkLoss) :
    (lose tell cause link).Harmonious count := by
  rcases h.settled with hdown | ⟨framer, hup⟩
  · rw [lose_down hdown]
    exact h
  · obtain ⟨hdown, htune⟩ := lose_up_inTune htell hup h.isOpen cause
    exact ⟨htune, .inl hdown⟩

theorem harmonious_send (h : link.Harmonious count) (bytes : Bytes) (failure : Option String) :
    (send tell bytes failure link).2.Harmonious count := by
  unfold send
  split
  · exact h
  split
  · exact h
  split
  · exact harmonious_lose htell h _
  · exact h.of_eq ⟨rfl, rfl, rfl, rfl, rfl, rfl⟩ rfl rfl

theorem harmonious_close (h : link.Harmonious count) : (close tell link).Harmonious count := by
  rcases h.settled with hdown | ⟨framer, hup⟩
  · rw [close_down hdown]
    exact h
  let closing : Link := { link with state := .closing, closing := true }
  obtain ⟨hparts, htune⟩ := publish_inTune htell closing rfl h.isOpen
  let told := publish tell .closing closing
  let dropped : Link :=
    { ({ told with hasWriter := false } : Link).stopReader link.router.connections with
      handle := none, state := .disconnected }
  have hreaders : dropped.readers = [] := by
    have hkept : told.readers = _ := hparts.readers.trans hup.readers
    simp [dropped, stopReader, hkept]
  -- The close in one piece: `reap` stops the reader, and `enter` is left with telling the state.
  have hclose : close tell link = { publish tell .disconnected dropped with closing := false } := by
    have hready : ¬ (link.closing = true ∨ link.state ≠ .connected) := by
      simp [hup.closing, hup.state]
    have hhandle : told.handle = some link.router.connections := hparts.handle.trans hup.handle
    have hreap : reap { told with hasWriter := false } = { dropped with state := .closing } := by
      rw [reap]
      simp only [hhandle]
      have hstate : told.state = .closing := hparts.state
      simp [dropped, stopReader, hstate]
    rw [close, if_neg hready]
    show { enter tell .disconnected (reap { told with hasWriter := false }) with
      closing := false } = _
    rw [hreap, enter, if_neg (by simp)]
  obtain ⟨hgone, hknown⟩ := publish_inTune htell dropped rfl htune.isOpen
  rw [hclose]
  refine ⟨hknown.of_eq rfl rfl rfl, .inl ⟨hgone.state, hgone.hasWriter, ?_, rfl⟩⟩
  exact hgone.readers.trans hreaders

/-- The router is being connected: whatever is called meanwhile, the link is known to be connecting.
-/
theorem dial_inTune (hdown : link.Down) (hopen : link.inbox.state.closed = false)
    (during : List Call) : ∃ dialled : Link,
      performAll tell .duringConnect during ((reap (publish tell .connecting
        { link with state := .connecting })).count fun s =>
          { s with connectionAttempts := s.connectionAttempts + 1 }) = dialled ∧
      dialled.InTune count ∧ dialled.state = .connecting ∧ dialled.hasWriter = false ∧
      dialled.readers = [] ∧ dialled.closing = false := by
  obtain ⟨hparts, htune⟩ := publish_inTune htell { link with state := .connecting } rfl hopen
  generalize publish tell .connecting { link with state := .connecting } = told at hparts htune
  -- A link that was down has no readers, so only an old handle is forgotten.
  have hreap : reap told = { told with handle := none } := by
    unfold reap
    split
    · rename_i hnone
      rw [← hnone]
    · simp [stopReader, hparts.readers, hdown.readers]
  have hheld (o : Nat) (_ : o < count) : statesOf
      (heard o (during.map fun call => .duringConnect (CallRecord.held call))) = [] := by
    rw [heard_held]
    rfl
  have hwriter : told.hasWriter = false := hparts.hasWriter.trans hdown.hasWriter
  have hstate : told.state = .connecting := hparts.state
  refine ⟨_, rfl, ?_⟩
  rw [hreap, performAll_connecting (by exact hstate) (by exact hwriter)]
  refine ⟨InTune.recordAll ?_ hheld, hstate, hwriter, hparts.readers.trans hdown.readers,
    hparts.closing.trans hdown.closing⟩
  exact htune.of_eq rfl rfl rfl

/-- Whatever is called while the router is being connected finds the link connecting, and that is a
call without effect. -/
theorem harmonious_connect (h : link.Harmonious count) (during : List Call) :
    (connectWhile tell (performAll tell .duringConnect during) link).2.Harmonious count := by
  rcases h.settled with hdown | ⟨framer, hup⟩
  case inr =>
    rw [connect_up hup]
    exact h
  obtain ⟨dialled, hdialled, htune, hstate, hwriter, hreaders, hclosing⟩ :=
    dial_inTune htell hdown h.isOpen during
  have hready : ¬ (link.closing = true) := by simp [hdown.closing]
  rw [connectWhile, if_neg hready]
  simp only [hdown.state, hdialled]
  split
  · -- The router refuses.
    obtain ⟨hparts, hknown⟩ := publish_inTune htell { dialled with state := .disconnected } rfl
      htune.isOpen
    have hchanges : dialled.state ≠ .disconnected := by simp [hstate]
    rw [enter, if_neg hchanges]
    exact ⟨hknown, .inl ⟨hparts.state, hparts.hasWriter.trans hwriter,
      hparts.readers.trans hreaders, hparts.closing.trans hclosing⟩⟩
  · -- The router accepts, and the reader is started when all have heard of it.
    let accepted : Link :=
      { dialled with router := dialled.router.accept, hasWriter := true, state := .connected }
    obtain ⟨hparts, hknown⟩ := publish_inTune htell accepted rfl htune.isOpen
    have hchanges : dialled.state ≠ .connected := by simp [hstate]
    have hconnections : (publish tell .connected accepted).router.connections =
        dialled.router.accept.connections := hparts.connections
    rw [enter, if_neg hchanges, startReader]
    dsimp only
    rw [if_pos hconnections]
    refine ⟨hknown.of_eq rfl rfl rfl, .inr ⟨.fresh .routerToHost, hparts.state, hparts.hasWriter,
      ?_, ?_, hparts.closing.trans hclosing⟩⟩
    · show ⟨_, _⟩ :: (publish tell .connected accepted).readers = [_]
      rw [hparts.readers, hconnections]
      simp [accepted, hreaders]
    · exact congrArg some hconnections.symm

/-- **Every call leaves a link in harmony in harmony.** -/
theorem harmonious_perform (h : link.Harmonious count) (call : Call) :
    (perform tell call link).2.Harmonious count := by
  cases call with
  | connect during =>
    rw [perform]
    exact harmonious_connect htell h during
  | close =>
    rw [perform]
    exact harmonious_close htell h
  | send bytes failure =>
    rw [perform]
    exact harmonious_send htell h bytes failure
  | state =>
    rw [perform]
    exact h

theorem harmonious_performAll (h : link.Harmonious count) (calls : List Call) :
    (performAll tell .fromObserver calls link).Harmonious count := by
  induction calls generalizing link with
  | nil => exact h
  | cons call calls ih =>
    have hcall := harmonious_perform htell h call
    rw [performAll]
    generalize perform tell call link = result at hcall
    obtain ⟨answer, after⟩ := result
    apply ih
    rw [record_eq]
    exact hcall.recordAll fun _ _ => rfl

theorem harmonious_endReader (h : link.Harmonious count) (connection : Nat) (cause : LinkLoss) :
    (endReader tell connection cause link).Harmonious count := by
  unfold endReader
  split
  · rename_i hreading
    obtain ⟨-, framer, hup⟩ := h.settled.isReading hreading
    obtain ⟨hdown, htune⟩ := lose_up_inTune htell hup h.isOpen cause
    have hnone : ((lose tell cause link).stopReader connection).readers = [] := by
      simp [stopReader, hdown.readers]
    exact ⟨htune.of_eq rfl rfl rfl, .inl ⟨hdown.state, hdown.hasWriter, hnone, hdown.closing⟩⟩
  · exact h

end Calls

end Link

/-! ## What has arrived -/

/-- Telling what has arrived puts no bound on what the observers call, for each of these calls finds
the link settled. -/
theorem Observers.harmonious_tellAll {observers : Observers} {count : Nat}
    {calls : List Call → Link → Link}
    (hcalls : ∀ cs link, link.Harmonious count → (calls cs link).Harmonious count)
    {notices : List Notice} (hnotices : ∀ n ∈ notices, n.isChange = false) {link : Link}
    (h : link.Harmonious count) : (observers.tellAll calls notices link).Harmonious count := by
  unfold tellAll
  refine List.foldlRecOn (motive := fun link : Link => link.Harmonious count) _ _ h ?_
  intro link h o _
  refine List.foldlRecOn (motive := fun link : Link => link.Harmonious count) _ _ h ?_
  intro link h n hn
  refine hcalls _ _ ?_
  rw [Link.record_eq]
  refine h.recordAll fun o' _ => ?_
  rw [← List.map_singleton (f := LinkEvent.told o), heard_map_told]
  split
  · exact List.filterMap_eq_nil_iff.mpr fun m hm => by
      rw [List.mem_singleton.mp hm]
      exact Notice.state?_of_not_isChange (hnotices n hn)
  · rfl

namespace Link

variable {observers : Observers} {link : Link}

/-- At depth zero nobody calls, and above it the calls are those of steady observers, which murmur. -/
theorem harmonious_tell (h : observers.Steady) (depth : Nat) {notices : List Notice}
    (hnotices : ∀ n ∈ notices, n.isChange = false) (hlink : link.Harmonious observers.count) :
    (observers.tell depth notices link).Harmonious observers.count := by
  cases depth with
  | zero => exact observers.harmonious_tellAll (fun _ _ hlink => hlink) hnotices hlink
  | succ depth =>
    refine observers.harmonious_tellAll (fun cs _ hlink => ?_) hnotices hlink
    exact harmonious_performAll (observers.murmurs_tell h depth) hlink cs

theorem harmonious_dispatch (h : observers.Steady) (depth : Nat) (event : FramerEvent)
    (hlink : link.Harmonious observers.count) :
    (dispatch (observers.tell depth) link event).Harmonious observers.count := by
  have hcounted (change : LinkStats → LinkStats) :
      (link.count change).Harmonious observers.count :=
    hlink.of_eq ⟨rfl, rfl, rfl, rfl, rfl, rfl⟩ rfl rfl
  cases event with
  | packet p raw =>
    have harrivals : ∀ n ∈ [Notice.frame raw, .packet p], n.isChange = false := by
      simp [Notice.isChange]
    have htold := harmonious_tell h depth harrivals
      (hcounted fun s => { s with packetsReceived := s.packetsReceived + 1 })
    exact htold.of_eq ⟨rfl, rfl, rfl, rfl, rfl, rfl⟩ rfl rfl
  | discarded cause dropped =>
    exact harmonious_tell h depth (by simp [Notice.isChange]) (hcounted _)

theorem harmonious_dispatchAll (h : observers.Steady) (depth : Nat) (found : List FramerEvent)
    (hlink : link.Harmonious observers.count) :
    (found.foldl (dispatch (observers.tell depth)) link).Harmonious observers.count := by
  induction found generalizing link with
  | nil => exact hlink
  | cons event found ih => exact ih (harmonious_dispatch h depth event hlink)

theorem harmonious_readPiece (h : observers.Steady) (depth connection : Nat) (piece : Bytes)
    (hlink : link.Harmonious observers.count) :
    (readPiece (observers.tell depth) connection piece link).Harmonious observers.count := by
  unfold readPiece
  split
  · exact hlink
  · rename_i reader _
    dsimp only
    have hcounted : (link.count fun s =>
        { s with bytesReceived := s.bytesReceived + piece.length }).Harmonious observers.count :=
      hlink.of_eq ⟨rfl, rfl, rfl, rfl, rfl, rfl⟩ rfl rfl
    have hdispatched :=
      harmonious_dispatchAll h depth (reader.framer.push piece).drain.1 hcounted
    exact ⟨hdispatched.toInTune.of_eq rfl rfl rfl, hdispatched.settled.keepFramer _ _⟩

end Link

namespace Line

variable {observers : Observers}

/-- **Every step leaves a link in harmony in harmony.** -/
theorem harmonious_step (h : observers.Steady) (depth : Nat) {line : Line} (move : Move)
    (hline : line.link.Harmonious observers.count) :
    (line.step (observers.tell depth) move).link.Harmonious observers.count := by
  have htell := observers.murmurs_tell h depth
  have hended (line' : Line) (hlink : line'.link = line.link) :
      (line'.endRead (observers.tell depth)).link.Harmonious observers.count :=
    Link.harmonious_endReader htell (hlink ▸ hline) _ _
  cases move with
  | call call => exact Link.harmonious_perform htell hline call
  | refuse refusing => exact hline.of_eq ⟨rfl, rfl, rfl, rfl, rfl, rfl⟩ rfl rfl
  | inject bytes =>
    unfold step inject
    dsimp only
    split <;> exact hline
  | hangUp => exact hline.of_eq ⟨rfl, rfl, rfl, rfl, rfl, rfl⟩ rfl rfl
  | read =>
    unfold step Line.read
    dsimp only
    split
    · split
      · split
        · exact hline
        · exact hended line rfl
      · split
        · exact hended _ rfl
        · exact Link.harmonious_readPiece h depth _ _ hline
    · exact hline
  | failRead failure =>
    cases failure with
    | transient => exact hline
    | fatal reason => exact Link.harmonious_endReader htell hline _ _

theorem harmonious_run (h : observers.Steady) (depth : Nat) {line : Line} (moves : List Move)
    (hline : line.link.Harmonious observers.count) :
    (line.run (observers.tell depth) moves).link.Harmonious observers.count := by
  induction moves generalizing line with
  | nil => exact hline
  | cons move moves ih => exact ih (harmonious_step h depth move hline)

end Line

namespace Link

/-! ## The contract -/

/-- The state of a link is what its watchers have seen last and what its observers have heard last,
and something can still be delivered exactly if it is up. -/
structure Synchronised (count : Nat) (link : Link) : Prop where
  watched : link.inbox.state.value = link.state
  believed : ∀ o < count, believed .disconnected (heard o link.events.toList) = link.state
  reading : (∃ connection, link.isReading connection = true) ↔ link.state = .connected

/-- A settled link has a reader exactly if it is up, so harmony is all that was promised. -/
theorem Harmonious.toSynchronised {count : Nat} {link : Link} (h : link.Harmonious count) :
    link.Synchronised count where
  watched := h.watched
  believed := h.believed
  reading := by
    rcases h.settled with hdown | ⟨framer, hup⟩
    · simp [Link.isReading, hdown.readers, hdown.state]
    · exact ⟨fun _ => hup.state, fun _ => ⟨_, hup.isReading⟩⟩

/-- **State, watchers, observers and readers agree after every step**, unless an observer does one
of the two things that come between an operation and its end. -/
theorem synchronised {observers : Observers} (h : observers.Steady) (depth : Nat)
    (moves : List Line.Move) :
    (Line.run (observers.tell depth) moves {}).link.Synchronised observers.count := by
  have hstart : ({} : Link).Harmonious observers.count :=
    { isOpen := rfl
      watched := rfl
      believed := fun _ _ => rfl
      settled := .inl ⟨rfl, rfl, rfl, rfl⟩ }
  exact (Line.harmonious_run h depth moves hstart).toSynchronised

/-- Two observers with much to say: the first calls while the link is connecting, writes when it is
up, and asks for it in vain when it is lost; the second breaks the link on each packet and connects
it again. -/
def talkative : Observers where
  count := 2
  react := fun _ observer notice =>
    match observer, notice with
    | 0, .state .connecting => [.connect [], .close, .send [0x00], .state]
    | 0, .state .connected => [.send [0xAA], .connect [], .state]
    | 0, .error (.linkLost _) => [.close, .send [0xBB], .state]
    | 1, .packet _ => [.send [0x00] (some "gone"), .connect [.close]]
    | _, _ => []

theorem synchronised_talkative :
    let answer : Bytes := [0x01, 0x03, 0x00, 0x00, 0x00, 0x00, 0x01]
    let moves : List Line.Move := [.call (.connect []), .inject answer, .read]
    let link := (Line.run (talkative.tell 2) moves {}).link
    talkative.Steady ∧ link.router.connections = 2 ∧ link.state = .connected ∧
      link.Synchronised talkative.count := by
  intro answer moves link
  have h : talkative.Steady := by
    intro history o notice call hcall
    simp only [talkative] at hcall
    split at hcall <;> simp only [List.mem_cons, List.not_mem_nil, or_false] at hcall
    · rcases hcall with rfl | rfl | rfl | rfl <;> trivial
    · rcases hcall with rfl | rfl | rfl
      · exact .inr rfl
      · trivial
      · trivial
    · rcases hcall with rfl | rfl | rfl <;> trivial
    · rcases hcall with rfl | rfl <;> trivial
  exact ⟨h, by decide +kernel, by decide +kernel, synchronised h 2 moves⟩

/-! ## At odds -/

/-- An observer that connects the link when it hears that it is lost. -/
def reconnecting : Observers where
  count := 1
  react := fun _ _ notice =>
    match notice with
    | .error (.linkLost _) => [.connect []]
    | _ => []

/-- An observer that closes the link when it hears that it is connected. -/
def hasty : Observers where
  count := 1
  react := fun _ _ notice =>
    match notice with
    | .state .connected => [.close]
    | _ => []

/-- **Two calls put a link at odds with those who follow it.** It is up, and was reported to be
down; or it is down, and a packet is delivered. -/
theorem reentry_at_odds :
    let answer : Bytes := [0x01, 0x03, 0x00, 0x00, 0x00, 0x00, 0x01]
    let reopened := (Line.run (reconnecting.tell 1) [.call (.connect []), .hangUp, .read] {}).link
    let opened := (Line.run (hasty.tell 1) [.call (.connect [])] {}).link
    let after := (Line.run (hasty.tell 1) [.call (.connect []), .inject answer, .read] {}).link
    (reconnecting.Unlocked ∧ reopened.state = .connected ∧
      reopened.inbox.state.value = .disconnected ∧
      believed .disconnected (heard 0 reopened.events.toList) = .disconnected) ∧
    (hasty.Unlocked ∧ opened.state = .disconnected ∧ opened.isReading 1 = true ∧
      after.state = .disconnected ∧ packetsOf (heard 0 after.events.toList) ≠ []) := by
  intro answer reopened opened after
  have hreconnecting : reconnecting.Unlocked := by
    rintro history o state (rfl | rfl) <;> rfl
  have hhasty : hasty.Unlocked := by
    rintro history o state (rfl | rfl) <;> rfl
  exact ⟨⟨hreconnecting, by decide +kernel⟩, hhasty, by decide +kernel⟩

end Link
end SensorLink
