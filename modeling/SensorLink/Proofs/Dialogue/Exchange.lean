import SensorLink.Proofs.Dialogue.Quiet

/-!
# A request and its reply

Most commands are one request and one wait. What such a command comes to is a race between the
packets that arrive, the clock and the link, and the course of the race is in the schedule. `Stage`
says where the wait can stand after a part of it; a move leads from stage to stage (`stage_move`),
so a schedule does (`stage_follow`).

What is to be known of the wait follows from where it can stand (`answered_ask`):

> **whatever ends the wait is what the first packet with a verdict says, and if there was none, the
> time was up or the link had changed its state.**

A verdict counts from the moment at which the wait began to listen, which is before its request was
written. A packet that arrives between the two is heard.
-/

namespace SensorLink

/-- What a packet makes of a wait, where `f` is made of the reply. -/
def Awaited.verdict {α : Type} (awaited : Awaited) (f : awaited.Reply → α) (packet : Packet) :
    Option (Except Error α) :=
  (awaited.judge packet).map (·.map f)

/-- What a caller makes of a reply does not decide whether it is one. -/
theorem Awaited.verdict_eq_none {α : Type} {awaited : Awaited} {f : awaited.Reply → α}
    {packet : Packet} : awaited.verdict f packet = none ↔ awaited.judge packet = none :=
  Option.map_eq_none_iff

/-- A request, and a wait after which nothing is left to do. -/
def Dialogue.ask {α : Type} (request : UInt32 → Packet) (awaited : Awaited) (timeout : Duration)
    (f : awaited.Reply → α) : Dialogue α :=
  .subscribe (.send request (.await awaited timeout fun reply => .done (.ok (f reply))))

namespace Exchange

variable {α : Type} {awaited : Awaited} {timeout : Duration} {f : awaited.Reply → α}
  {stream : ReplyStream} {deadline : Option Nat} {world : World} {acts : List Act}

/-- What is left of an exchange once the request was written. -/
abbrev rest (awaited : Awaited) (timeout : Duration) (f : awaited.Reply → α) : Dialogue α :=
  .await awaited timeout fun reply => .done (.ok (f reply))

theorem findSome?_eq_none {packets : List Packet} :
    packets.findSome? (awaited.verdict f) = none ↔ ∀ p ∈ packets, awaited.judge p = none := by
  rw [List.findSome?_eq_none_iff]
  exact forall₂_congr fun p _ => Awaited.verdict_eq_none

/-- The first packet that decides does so with all that stands behind it. -/
theorem findSome?_verdict {before after : List Packet} {packet : Packet}
    {outcome : Except Error awaited.Reply} (hbefore : ∀ p ∈ before, awaited.judge p = none)
    (hjudge : awaited.judge packet = some outcome) :
    (before ++ packet :: after).findSome? (awaited.verdict f) = some (outcome.map f) := by
  have hnone : before.findSome? (awaited.verdict f) = none := findSome?_eq_none.mpr hbefore
  rw [List.findSome?_append, hnone, Option.none_or, List.findSome?_cons, Awaited.verdict, hjudge]
  rfl

/-- A step of a wait finds its reply, or that the link has changed its state, or nothing. -/
theorem step_wait (hreach : world.link.inbox.packets.oldest ≤ stream.next)
    (hopen : world.link.inbox.packets.closed = false)
    (hnext : stream.next ≤ world.link.inbox.packets.tail) :
    let course : Course α := ⟨⟨rest awaited timeout f, stream, deadline⟩, world, acts⟩
    let unread := world.link.inbox.packets.unread stream.next
    (∃ r after done, course.step = ⟨⟨.done r, after, none⟩, world, done⟩ ∧
      framesOf done = framesOf acts ∧ unread.findSome? (awaited.verdict f) = some r) ∨
    (∀ p ∈ unread, awaited.judge p = none) ∧
      ((∃ after, course.step =
          ⟨⟨.done (.error (.linkLost .disconnectedWhileWaiting)), after, none⟩, world, acts⟩ ∧
        (stream.seen ≠ world.link.inbox.state.version ∨ world.link.inbox.state.closed = true)) ∨
      ∃ after : ReplyStream, after.next = world.link.inbox.packets.tail ∧
        after.seen = world.link.inbox.state.version ∧
        course.step = Course.waited after deadline world acts awaited timeout
          fun reply => .done (.ok (f reply))) := by
  intro course unread
  have hstep := Course.step_await stream deadline world acts awaited timeout
    fun reply => (.done (.ok (f reply)) : Dialogue α)
  have hlook := ReplyStream.look awaited world.link.inbox stream
  change course.step = _ at hstep
  generalize stream.poll awaited world.link.inbox = x at hstep hlook
  cases hlook with
  | lagged hlag => exact absurd hlag (Nat.not_lt.mpr hreach)
  | ended _ _ hclosed => rw [hopen] at hclosed; cases hclosed
  | @judged before after packet outcome _ hunread hbefore hjudge =>
    have hfirst : unread.findSome? (awaited.verdict f) = some (outcome.map f) := by
      simp only [unread, hunread]
      exact findSome?_verdict hbefore hjudge
    cases outcome with
    | ok reply => exact .inl ⟨_, _, _, hstep, by simp [framesOf, Act.written?], hfirst⟩
    | error e => exact .inl ⟨_, _, _, hstep, rfl, hfirst⟩
  -- No packet has decided, so the state of the link is looked at.
  | passed _ hnone _ =>
    refine .inr ⟨hnone, ?_⟩
    simp only at hstep
    generalize hread : ({ stream with next := _ } : ReplyStream) = read at hstep
    cases hpoll : (ReplyStream.pollState world.link.inbox read).1 with
    | some e =>
      rw [hpoll] at hstep
      obtain rfl := ReplyStream.pollState_error hpoll
      refine .inl ⟨_, hstep, ?_⟩
      have hchanged := ReplyStream.changed_of_pollState_some hpoll
      rwa [← hread] at hchanged
    | none =>
      rw [hpoll] at hstep
      refine .inr ⟨_, ?_, ReplyStream.seen_pollState _ _, hstep⟩
      rw [ReplyStream.pollState_next, ← hread, Broadcast.unread_eq_drop, List.length_drop]
      change stream.next + (world.link.inbox.packets.tail - stream.next) = _
      omega

/-! ## Where a wait can stand -/

/-- A wait that goes on: it has passed over all that it has looked at, and its time is not up. -/
structure Waiting (awaited : Awaited) (timeout : Duration) (since : Nat) (first : List Packet)
    (gone : List Move) (stream : ReplyStream) (deadline : Option Nat) (world : World) : Prop where
  isOpen : world.link.inbox.packets.closed = false ∧ world.link.inbox.state.closed = false
  now_eq : world.now = since + passed gone
  next_le : stream.next ≤ world.link.inbox.packets.tail
  heard : ∃ before, first ++ arrivals gone
      = before ++ world.link.inbox.packets.unread stream.next ∧
    ∀ p ∈ before, awaited.judge p = none
  seen : Calm gone → stream.seen = world.link.inbox.state.version
  deadline : ∀ time ∈ deadline, since + timeout.ticks ≤ time ∧ time ≤ world.now + timeout.ticks

/-- Where an exchange can stand. It was written as `frames` at the time `since`; `first` had arrived
by then, and `gone` is the schedule after that. -/
inductive Stage (awaited : Awaited) (timeout : Duration) (f : awaited.Reply → α)
    (frames : List Bytes) (since : Nat) (first : List Packet) (gone : List Move) :
    Course α → Prop where
  | waiting {stream : ReplyStream} {deadline : Option Nat} {world : World} {acts : List Act}
      (hframes : framesOf acts = frames)
      (h : Waiting awaited timeout since first gone stream deadline world) :
    Stage awaited timeout f frames since first gone
      ⟨⟨rest awaited timeout f, stream, deadline⟩, world, acts⟩
  | decided {r : Except Error α} {stream : ReplyStream} {deadline : Option Nat} {world : World}
      {acts : List Act} (hframes : framesOf acts = frames)
      (h : (first ++ arrivals gone).findSome? (awaited.verdict f) = some r) :
    Stage awaited timeout f frames since first gone ⟨⟨.done r, stream, deadline⟩, world, acts⟩
  | late {before after : List Move} {stream : ReplyStream} {deadline : Option Nat} {world : World}
      {acts : List Act} (hframes : framesOf acts = frames) (hgone : gone = before ++ after)
      (hnone : ∀ p ∈ first ++ arrivals before, awaited.judge p = none)
      (htime : timeout.ticks ≤ passed before) :
    Stage awaited timeout f frames since first gone
      ⟨⟨.done (.error (.timedOut timeout)), stream, deadline⟩, world, acts⟩
  | lost {before after : List Move} {stream : ReplyStream} {deadline : Option Nat} {world : World}
      {acts : List Act} (hframes : framesOf acts = frames) (hgone : gone = before ++ after)
      (hnone : ∀ p ∈ first ++ arrivals before, awaited.judge p = none)
      (hstate : ¬ Calm before) :
    Stage awaited timeout f frames since first gone
      ⟨⟨.done (.error (.linkLost .disconnectedWhileWaiting)), stream, deadline⟩, world, acts⟩

variable {frames : List Bytes} {since : Nat} {first : List Packet} {gone : List Move}

/-- Only what is left to look at matters to what the wait comes to. -/
theorem Waiting.findSome?_eq (h : Waiting awaited timeout since first gone stream deadline world) :
    (first ++ arrivals gone).findSome? (awaited.verdict f) =
      (world.link.inbox.packets.unread stream.next).findSome? (awaited.verdict f) := by
  obtain ⟨before, hheard, hbefore⟩ := h.heard
  rw [hheard, List.findSome?_append, findSome?_eq_none.mpr hbefore, Option.none_or]

/-- What was looked at has decided nothing, so if what is left does not either, nothing does. -/
theorem Waiting.none_of_unread {f : awaited.Reply → α}
    (h : Waiting awaited timeout since first gone stream deadline world)
    (hnone : ∀ p ∈ world.link.inbox.packets.unread stream.next, awaited.judge p = none) :
    ∀ p ∈ first ++ arrivals gone, awaited.judge p = none := by
  have hall := h.findSome?_eq (f := f)
  rw [findSome?_eq_none.mpr hnone] at hall
  exact findSome?_eq_none.mp hall

theorem Waiting.not_changed (h : Waiting awaited timeout since first gone stream deadline world)
    (hcalm : Calm gone) : ¬ (stream.seen ≠ world.link.inbox.state.version ∨
      world.link.inbox.state.closed = true) := by
  rintro (hseen | hclosed)
  · exact hseen (h.seen hcalm)
  · rw [h.isOpen.2] at hclosed
    cases hclosed

/-- **A step of the course is a step of the exchange**: the wait sees a packet that decides, or it
stands where it was. -/
theorem stage_step {course : Course α}
    (h : Stage awaited timeout f frames since first gone course) (hreach : course.inReach = true) :
    Stage awaited timeout f frames since first (gone ++ [.step]) course.step := by
  have harrivals : arrivals (gone ++ [.step]) = arrivals gone := by simp
  have hpassed : passed (gone ++ [.step]) = passed gone := by simp
  cases h with
  | decided hframes h =>
    rw [Course.step_done]
    exact .decided hframes (harrivals.symm ▸ h)
  | late hframes hgone hnone htime =>
    rw [Course.step_done]
    exact .late hframes (by rw [hgone, List.append_assoc]) hnone htime
  | lost hframes hgone hnone hstate =>
    rw [Course.step_done]
    exact .lost hframes (by rw [hgone, List.append_assoc]) hnone hstate
  | @waiting stream deadline world acts hframes h =>
    -- A look at the stream: a verdict, a change of the link, or neither.
    have hreach : world.link.inbox.packets.oldest ≤ stream.next := of_decide_eq_true hreach
    rcases step_wait hreach h.isOpen.1 h.next_le with
      ⟨r, after, done, hstep, hdone, hfirst⟩ | ⟨hnone, ⟨after, hstep, hchanged⟩ |
        ⟨after, hnext, hseen, hstep⟩⟩
    · rw [hstep]
      exact .decided (hdone.trans hframes) (harrivals.symm ▸ h.findSome?_eq.trans hfirst)
    · rw [hstep]
      exact .lost hframes rfl (h.none_of_unread (f := f) hnone) fun hcalm =>
        h.not_changed hcalm hchanged
    · rw [hstep]
      have hall := h.none_of_unread (f := f) hnone
      have hunread : world.link.inbox.packets.unread after.next = [] := by
        rw [hnext, Broadcast.unread_tail]
      have hwaiting (time : Nat) (htime : since + timeout.ticks ≤ time)
          (hle : time ≤ world.now + timeout.ticks) :
          Waiting awaited timeout since first (gone ++ [.step]) after (some time) world := by
        refine ⟨h.isOpen, hpassed.symm ▸ h.now_eq, Nat.le_of_eq hnext,
          ⟨first ++ arrivals gone, ?_, hall⟩, fun _ => hseen, ?_⟩
        · rw [harrivals, hunread, List.append_nil]
        · rintro _ ⟨⟩
          exact ⟨htime, hle⟩
      unfold Course.waited
      cases deadline with
      | none =>
        refine .waiting hframes (hwaiting _ ?_ (Nat.le_refl _))
        rw [h.now_eq]
        omega
      | some time =>
        obtain ⟨hsince, hle⟩ := h.deadline time rfl
        simp only
        split
        · refine .late hframes rfl hall ?_
          have := h.now_eq
          omega
        · exact .waiting hframes (hwaiting time hsince hle)

theorem waiting_undergo (h : Waiting awaited timeout since first gone stream deadline world)
    (what : Happening) :
    Waiting awaited timeout since first (gone ++ [.meanwhile what]) stream deadline
      (world.undergo what) := by
  obtain ⟨⟨hpackets, hstate⟩, hnow, hnext, ⟨before, hheard, hbefore⟩, hseen, hdeadline⟩ := h
  have hcalm : Calm (gone ++ [.meanwhile what]) → Calm gone := fun hcalm move hmove =>
    hcalm move (List.mem_append_left _ hmove)
  cases what with
  | arrives packet =>
    -- The packet joins those that have yet to be looked at.
    have hsent : (world.undergo (.arrives packet)).link.inbox.packets =
        world.link.inbox.packets.send packet := rfl
    have hunread := Broadcast.unread_send hpackets packet hnext
    have hextends := Broadcast.extends_send world.link.inbox.packets packet
    refine ⟨⟨hextends.closed.trans hpackets, hstate⟩, hnow.trans (by simp),
      Nat.le_trans hnext hextends.tail_le, ⟨before, ?_, hbefore⟩, hseen ∘ hcalm, hdeadline⟩
    rw [hsent, hunread, ← List.append_assoc, ← hheard]
    simp
  | passes milliseconds =>
    have hnow' : (world.undergo (.passes milliseconds)).now = world.now + milliseconds := rfl
    refine ⟨⟨hpackets, hstate⟩, ?_, hnext, ⟨before, .trans (by simp) hheard, hbefore⟩,
      hseen ∘ hcalm, fun time htime => ?_⟩
    · rw [hnow', hnow, passed_append, passed_passes, passed_nil]
      omega
    · obtain ⟨hsince, hle⟩ := hdeadline time htime
      exact ⟨hsince, by omega⟩
  | enters state =>
    have hclosed : (world.undergo (.enters state)).link.inbox.state.closed
        = world.link.inbox.state.closed := by
      have hview := congrArg (·.announced.closed) (world.undergo_view (.enters state))
      exact hview.trans (world.view.closed_undergo _)
    have hpackets' : (world.undergo (.enters state)).link.inbox.packets =
        world.link.inbox.packets := world.undergo_packets (.enters state)
    refine ⟨⟨hpackets' ▸ hpackets, hclosed.trans hstate⟩, hnow.trans (by simp), hpackets' ▸ hnext,
      ⟨before, ?_, hbefore⟩, fun hloud => ?_, hdeadline⟩
    · rw [hpackets']
      simpa using hheard
    · have := hloud (.meanwhile (.enters state)) (by simp)
      cases this

/-- What happens between two steps adds to what there is to be seen. -/
theorem stage_meanwhile {course : Course α}
    (h : Stage awaited timeout f frames since first gone course) (what : Happening) :
    Stage awaited timeout f frames since first (gone ++ [.meanwhile what])
      (course.move (.meanwhile what)) := by
  cases h with
  | waiting hframes h => exact .waiting hframes (waiting_undergo h what)
  | decided hframes h =>
    refine .decided hframes ?_
    rw [arrivals_append, ← List.append_assoc, List.findSome?_append, h, Option.some_or]
  | late hframes hgone hnone htime =>
    exact .late hframes (by rw [hgone, List.append_assoc]) hnone htime
  | lost hframes hgone hnone hstate =>
    exact .lost hframes (by rw [hgone, List.append_assoc]) hnone hstate

/-- A course that keeps up with its schedule is at some stage of its exchange all the time. -/
theorem stage_follow {course : Course α} (schedule : List Move)
    (h : Stage awaited timeout f frames since first gone course)
    (hkeeps : course.keepsUp schedule = true) :
    Stage awaited timeout f frames since first (gone ++ schedule) (course.follow schedule) := by
  induction schedule generalizing course gone with
  | nil => rwa [List.append_nil]
  | cons move schedule ih =>
    have hmove : Stage awaited timeout f frames since first (gone ++ [move])
        (course.move move) := by
      cases move with
      | step => exact stage_step h (Course.inReach_of_keepsUp hkeeps)
      | meanwhile what => exact stage_meanwhile h what
    have hlater := ih hmove (Course.keepsUp_of_cons hkeeps)
    rwa [List.append_assoc] at hlater

/-! ## What an exchange comes to -/

/-- What is to be known of a wait, `decision` being what a packet makes of it. The packets are those
that had arrived when the request was written, and those of the schedule after that. -/
structure Answered (decision : Packet → Option (Except Error α)) (timeout : Duration)
    (first : List Packet) (schedule : List Move) (course : Course α) : Prop where
  /-- Either the first packet that decides has decided, or none had come when the wait was given
  up. -/
  result : ∀ r, course.result? = some r →
    (first ++ arrivals schedule).findSome? decision = some r ∨
    ∃ before after, schedule = before ++ after ∧
      (first ++ arrivals before).findSome? decision = none ∧
      (r = .error (.timedOut timeout) ∧ timeout.ticks ≤ passed before ∨
        r = .error (.linkLost .disconnectedWhileWaiting) ∧ ¬ Calm before)
  /-- Before its time is up, one look is enough. -/
  decided : Calm schedule → passed schedule < timeout.ticks →
    course.step.result? = (first ++ arrivals schedule).findSome? decision
  silent : Calm schedule → (first ++ arrivals schedule).findSome? decision = none →
    ∀ milliseconds, timeout.ticks ≤ milliseconds →
      (course.follow [.step, .meanwhile (.passes milliseconds), .step]).result? =
        some (.error (.timedOut timeout))

theorem passed_le {schedule before after : List Move} (h : schedule = before ++ after) :
    passed before ≤ passed schedule := by
  rw [h, passed_append]
  exact Nat.le_add_right _ _

theorem calm_left {schedule before after : List Move} (h : schedule = before ++ after)
    (hcalm : Calm schedule) : Calm before := fun move hmove =>
  hcalm move (h ▸ List.mem_append_left _ hmove)

/-- A wait that has looked at everything and is late ends at the next look. -/
theorem timedOut_of_late {time : Nat} (hunread : world.link.inbox.packets.tail = stream.next)
    (hopen : world.link.inbox.packets.closed = false ∧ world.link.inbox.state.closed = false)
    (hseen : stream.seen = world.link.inbox.state.version) (hlate : time ≤ world.now) :
    (Course.step ⟨⟨rest awaited timeout f, stream, some time⟩, world, acts⟩).result? =
      some (.error (.timedOut timeout)) := by
  have hreach : world.link.inbox.packets.oldest ≤ stream.next := by
    rw [← hunread]
    exact Nat.sub_le _ _
  rcases step_wait (f := f) hreach hopen.1 (Nat.le_of_eq hunread.symm) with
    ⟨r, after, done, -, -, hfirst⟩ | ⟨-, ⟨after, -, hchanged⟩ | ⟨after, -, -, hstep⟩⟩
  · have hnil : world.link.inbox.packets.unread stream.next = [] := by
      rw [Broadcast.unread_eq_drop, ← hunread]
      exact List.drop_length
    rw [hnil] at hfirst
    cases hfirst
  · rcases hchanged with hseen' | hclosed
    · exact absurd hseen hseen'
    · rw [hopen.2] at hclosed
      cases hclosed
  · rw [hstep]
    simp only [Course.waited, if_pos hlate]
    rfl

theorem Stage.frames_eq {course : Course α}
    (h : Stage awaited timeout f frames since first gone course) : course.frames = frames := by
  cases h with
  | waiting hframes => exact hframes
  | decided hframes => exact hframes
  | late hframes => exact hframes
  | lost hframes => exact hframes

section

variable {course : Course α} {schedule : List Move}

/-- If there is a result, the packets have decided it, or some part of the schedule before which
they had not. -/
theorem Stage.result_cases (h : Stage awaited timeout f frames since first schedule course)
    {r : Except Error α} (hr : course.result? = some r) :
    (first ++ arrivals schedule).findSome? (awaited.verdict f) = some r ∨
    ∃ before after, schedule = before ++ after ∧
      (first ++ arrivals before).findSome? (awaited.verdict f) = none ∧
      (r = .error (.timedOut timeout) ∧ timeout.ticks ≤ passed before ∨
        r = .error (.linkLost .disconnectedWhileWaiting) ∧ ¬ Calm before) := by
  cases h with
  | waiting _ h => cases hr
  | decided _ h =>
    cases hr
    exact .inl h
  | late _ hgone hnone htime =>
    cases hr
    exact .inr ⟨_, _, hgone, findSome?_eq_none.mpr hnone, .inl ⟨rfl, htime⟩⟩
  | lost _ hgone hnone hstate =>
    cases hr
    exact .inr ⟨_, _, hgone, findSome?_eq_none.mpr hnone, .inr ⟨rfl, hstate⟩⟩

/-- As long as the link stays up and there is time left, a step finds all there is. -/
theorem Stage.result_step (h : Stage awaited timeout f frames since first schedule course)
    (hreach : course.inReach = true) (hcalm : Calm schedule)
    (htime : passed schedule < timeout.ticks) :
    course.step.result? = (first ++ arrivals schedule).findSome? (awaited.verdict f) := by
  cases h with
  | decided _ h => exact h.symm
  | late _ hgone _ hlate => exact absurd (Nat.le_trans hlate (passed_le hgone)) (by omega)
  | lost _ hgone _ hstate => exact absurd (calm_left hgone hcalm) hstate
  | @waiting stream deadline world acts _ h =>
    have hreach : world.link.inbox.packets.oldest ≤ stream.next := of_decide_eq_true hreach
    rw [h.findSome?_eq]
    rcases step_wait (f := f) hreach h.isOpen.1 h.next_le with
      ⟨r, after, done, hstep, -, hfirst⟩ | ⟨hnone, ⟨after, -, hchanged⟩ | ⟨after, -, -, hstep⟩⟩
    · rw [hstep]
      exact hfirst.symm
    · exact absurd hchanged (h.not_changed hcalm)
    · -- There was no verdict, and it is too early for the clock to end the wait.
      rw [hstep, findSome?_eq_none.mpr hnone]
      unfold Course.waited
      cases deadline with
      | none => rfl
      | some time =>
        have hsince := (h.deadline time rfl).1
        have hnow := h.now_eq
        simp only
        rw [if_neg (by omega)]
        rfl

/-- With nothing that decides, time has to pass and a step has to come behind it. -/
theorem Stage.timedOut (h : Stage awaited timeout f frames since first schedule course)
    (hreach : course.inReach = true) (hcalm : Calm schedule)
    (hnone : (first ++ arrivals schedule).findSome? (awaited.verdict f) = none) {n : Nat}
    (hn : timeout.ticks ≤ n) :
    (course.follow [.step, .meanwhile (.passes n), .step]).result? =
      some (.error (.timedOut timeout)) := by
  cases h with
  | decided _ h =>
    rw [h] at hnone
    cases hnone
  | late _ _ _ _ => exact Course.result_follow rfl _
  | lost _ hgone _ hstate => exact absurd (calm_left hgone hcalm) hstate
  | @waiting stream deadline world acts _ h =>
    have hreach : world.link.inbox.packets.oldest ≤ stream.next := of_decide_eq_true hreach
    rw [h.findSome?_eq] at hnone
    rcases step_wait (f := f) hreach h.isOpen.1 h.next_le with
      ⟨r, after, done, -, -, hfirst⟩ | ⟨-, ⟨after, -, hchanged⟩ | ⟨after, hnext, hseen, hstep⟩⟩
    · rw [hnone] at hfirst
      cases hfirst
    · exact absurd hchanged (h.not_changed hcalm)
    · -- From here on the wait has nothing left to look at but the clock.
      have hlate (time : Nat) (htime : time ≤ world.now + n) :
          (Course.follow [.meanwhile (.passes n), .step]
            ⟨⟨rest awaited timeout f, after, some time⟩, world, acts⟩).result? =
            some (.error (.timedOut timeout)) :=
        timedOut_of_late hnext.symm h.isOpen hseen htime
      rw [Course.follow_cons, Course.move, hstep]
      unfold Course.waited
      cases deadline with
      | none => exact hlate _ (by omega)
      | some time =>
        -- The deadline is no further away than the timeout, and as much time passes.
        have hle := (h.deadline time rfl).2
        simp only
        split
        · exact Course.result_follow rfl _
        · exact hlate time (by omega)

theorem Stage.answered (h : Stage awaited timeout f frames since first schedule course)
    (hreach : course.inReach = true) :
    Answered (awaited.verdict f) timeout first schedule course where
  result _ hr := h.result_cases hr
  decided := h.result_step hreach
  silent hcalm hnone _ hn := h.timedOut hreach hcalm hnone hn

end

/-! ## How an exchange begins -/

/-- A world in which a request can be made: the link is up, its channels are open, and no script
interferes. -/
structure Ready (world : World) : Prop where
  quiet : world.Quiet
  canWrite : world.view.canWrite = true
  isOpen : world.link.inbox.packets.closed = false ∧ world.link.inbox.state.closed = false

/-- A link that has just come up. -/
def upWorld : World where
  link :=
    { state := .connected
      hasWriter := true
      inbox := ⟨{ capacity := 256 }, { value := .connected, version := 2 }⟩ }

theorem ready_upWorld : Ready upWorld := ⟨⟨rfl, rfl⟩, rfl, ⟨rfl, rfl⟩⟩

theorem ready_undergo (h : Ready world) {what : Happening} (hcalm : (Move.meanwhile what).isCalm) :
    Ready (world.undergo what) := by
  have hview := world.undergo_view what
  refine ⟨World.quiet_undergo h.quiet what, ?_, ?_, ?_⟩
  · rw [hview]
    cases what with
    | enters state => cases hcalm
    | arrives packet => exact h.canWrite
    | passes milliseconds => exact h.canWrite
  · refine Eq.trans (congrArg World.View.ended hview) ?_
    cases what with
    | enters state => cases hcalm
    | arrives packet => exact h.isOpen.1
    | passes milliseconds => exact h.isOpen.1
  · exact ((congrArg (·.announced.closed) hview).trans (world.view.closed_undergo _)).trans
      h.isOpen.2

theorem ready_write (h : Ready world) (bytes : Bytes) :
    (world.write bytes).1 = true ∧ Ready (world.write bytes).2 := by
  obtain ⟨htaken, hquiet, hview, hinbox⟩ := World.write_quiet h.quiet bytes
  exact ⟨htaken.trans h.canWrite, hquiet, hview ▸ h.canWrite, hinbox ▸ h.isOpen⟩

theorem isConnected_of_ready (h : Ready world) : world.link.isConnected = true :=
  (Bool.and_eq_true_iff.mp h.canWrite).1

/-- Between the beginning of a wait and its request the world goes on, and the wait listens. -/
theorem waiting_gap (gap : List Happening) (hready : Ready world)
    (hcalm : Calm (gap.map Move.meanwhile))
    (h : Waiting awaited timeout since first gone stream none world) :
    Ready (gap.foldl World.undergo world) ∧
      Waiting awaited timeout since first (gone ++ gap.map Move.meanwhile) stream none
        (gap.foldl World.undergo world) := by
  induction gap generalizing world gone with
  | nil => exact ⟨hready, (List.append_nil gone).symm ▸ h⟩
  | cons what gap ih =>
    have hlater := ih (ready_undergo hready (hcalm _ (.head _)))
      (fun move hmove => hcalm move (.tail _ hmove)) (waiting_undergo h what)
    rw [List.append_assoc] at hlater
    exact hlater

theorem follow_gap (gap : List Happening) (task : Task α) :
    Course.follow (gap.map Move.meanwhile) ⟨task, world, acts⟩ =
      ⟨task, gap.foldl World.undergo world, acts⟩ := by
  induction gap generalizing world with
  | nil => rfl
  | cons what gap ih => exact ih

/-- The request is written once, and by then the wait has listened to everything in between. -/
theorem follow_request (awaited : Awaited) (timeout : Duration) {request : UInt32 → Packet}
    (next : Dialogue α) (hready : Ready world)
    (hencode : ∀ unixTime, ∃ frame, (request unixTime).encode = .ok frame) (gap : List Happening)
    (hcalm : Calm (gap.map Move.meanwhile)) :
    ∃ unixTime frame stream after acts, (request unixTime).encode = .ok frame ∧
      framesOf acts = [frame] ∧
      (Course.start (.subscribe (.send request next)) world).follow
        (.step :: gap.map Move.meanwhile ++ [.step]) = ⟨⟨next, stream, none⟩, after, acts⟩ ∧
      Waiting awaited timeout after.now (arrivals (gap.map Move.meanwhile)) [] stream none
        after := by
  -- Before the gap the wait has everything still ahead of it, although it has not begun.
  have hbegun : Waiting awaited timeout world.now [] [] (.subscribe world.link.inbox) none world :=
    ⟨hready.isOpen, rfl, Nat.le_refl _, ⟨[], by simp [ReplyStream.subscribe], nofun⟩, fun _ => rfl,
      nofun⟩
  obtain ⟨hready', hwaiting⟩ := waiting_gap gap hready hcalm hbegun
  rw [List.nil_append] at hwaiting
  generalize hmeanwhile : gap.foldl World.undergo world = meanwhile at hready' hwaiting
  obtain ⟨frame, hframe⟩ := hencode meanwhile.unixTime
  obtain ⟨htaken, -⟩ := ready_write hready' frame
  obtain ⟨-, -, -, hinbox⟩ := World.write_quiet hready'.quiet frame
  refine ⟨meanwhile.unixTime, frame, .subscribe world.link.inbox, (meanwhile.write frame).2,
    [.listened world.link.inbox.packets.tail, .wrote frame], hframe, rfl, ?_, ?_⟩
  · rw [List.cons_append, Course.follow_cons, Course.follow_append, Course.move, Course.start,
      Course.step_subscribe, if_pos (isConnected_of_ready hready), follow_gap, hmeanwhile,
      Course.follow_cons, Course.move, Course.step_send, hframe]
    simp only [Course.transmitted]
    rcases hwrite : meanwhile.write frame with ⟨taken, after⟩
    rw [hwrite] at htaken
    cases htaken
    rfl
  -- To write does not touch the packets, so what was ahead of the request is ahead of the wait.
  · obtain ⟨hopen, -, hnext, hheard, hseen, -⟩ := hwaiting
    rw [← hinbox] at hopen hnext hheard hseen
    exact ⟨hopen, rfl, hnext, by simpa using hheard, fun _ => hseen hcalm, nofun⟩

/-! ## Whole exchanges -/

/-- An exchange in which nothing goes wrong with the link: it begins to listen, a while later it
writes its request, and then the schedule takes over. -/
abbrev run (dialogue : Dialogue α) (world : World) (gap : List Happening)
    (schedule : List Move) : Course α :=
  (Course.start dialogue world).follow (.step :: gap.map Move.meanwhile ++ [.step] ++ schedule)

/-- **A wait comes to what the first packet with a verdict says**, unless its time is up before or
the link changes its state. -/
theorem answered_ask {request : UInt32 → Packet} (hready : Ready world)
    (hencode : ∀ unixTime, ∃ frame, (request unixTime).encode = .ok frame) (gap : List Happening)
    (hcalm : Calm (gap.map Move.meanwhile)) (schedule : List Move)
    (hkeeps : (Course.start (.ask request awaited timeout f) world).keepsUp
      (.step :: gap.map Move.meanwhile ++ [.step] ++ schedule) = true) :
    (∃ unixTime frame, (request unixTime).encode = .ok frame ∧
      (run (.ask request awaited timeout f) world gap schedule).frames = [frame]) ∧
    Answered (awaited.verdict f) timeout (arrivals (gap.map Move.meanwhile)) schedule
      (run (.ask request awaited timeout f) world gap schedule) := by
  have hkeeps := Course.keepsUp_of_append hkeeps
  unfold run
  rw [Course.follow_append]
  unfold Dialogue.ask at hkeeps ⊢
  obtain ⟨unixTime, frame, stream, after, acts, hframe, hacts, hfollow, hwaiting⟩ :=
    follow_request awaited timeout (rest awaited timeout f) hready hencode gap hcalm
  rw [hfollow] at hkeeps ⊢
  have hstage := stage_follow (f := f) schedule (.waiting hacts hwaiting) hkeeps
  exact ⟨⟨unixTime, frame, hframe, hstage.frames_eq⟩,
    hstage.answered (Course.inReach_follow hkeeps)⟩

theorem result_tell {request : UInt32 → Packet} {r : Except Error α} (hready : Ready world)
    (hencode : ∀ unixTime, ∃ frame, (request unixTime).encode = .ok frame) (gap : List Happening)
    (hcalm : Calm (gap.map Move.meanwhile)) (schedule : List Move) :
    (∃ unixTime frame, (request unixTime).encode = .ok frame ∧
      (run (.subscribe (.send request (.done r))) world gap schedule).frames = [frame]) ∧
    (run (.subscribe (.send request (.done r))) world gap schedule).result? = some r := by
  unfold run
  rw [Course.follow_append]
  obtain ⟨unixTime, frame, stream, after, acts, hframe, hacts, hfollow, -⟩ :=
    follow_request .updateAnswer (.milliseconds 0) (.done r) hready hencode gap hcalm
  rw [hfollow]
  refine ⟨⟨unixTime, frame, hframe, ?_⟩, Course.result_follow rfl schedule⟩
  rw [Course.frames, (Course.follow_of_result rfl schedule).2]
  exact hacts

end Exchange
end SensorLink
