import SensorLink.Proofs.Dialogue.Quiet

/-!
# Unrelated traffic

Every packet that arrives is shown to every wait. What keeps commands apart is only that a wait
passes over what it is not for. `HeedsOnly` says that of a dialogue as a whole, and it is a matter
of its text: one looks at each wait in it (`heedsOnly_of_concerns`).

Take two courses of such a dialogue whose schedules differ in packets that it does not heed. They
need not be alike in what they have looked at, nor in their positions. What they share is `Alike`:
the same is left of the dialogue, and the same heeded packets are ahead. Each move keeps that up, so

> **unrelated packets change neither the result nor the frames** (`follow_of_agree`).
-/

namespace SensorLink

variable {α β : Type} {wanted : Packet → Bool}

/-! ## What a dialogue heeds -/

namespace Dialogue

/-- Every wait passes over what is not wanted. -/
def HeedsOnly (wanted : Packet → Bool) : Dialogue α → Prop
  | .done _ => True
  | .subscribe next => HeedsOnly wanted next
  | .send _ next => HeedsOnly wanted next
  | .stream _ next => HeedsOnly wanted next
  | .await awaited _ next =>
    (∀ p, wanted p = false → awaited.judge p = none) ∧ ∀ reply, HeedsOnly wanted (next reply)
  | .pause _ next => HeedsOnly wanted next

theorem HeedsOnly.bind {d : Dialogue α} {f : α → Dialogue β} (h : d.HeedsOnly wanted)
    (hf : ∀ a, (f a).HeedsOnly wanted) : (d >>= f).HeedsOnly wanted := by
  induction d with
  | done result =>
    cases result with
    | ok a => exact hf a
    | error e => trivial
  | subscribe next ih => exact ih h
  | send request next ih => exact ih h
  | stream bytes next ih => exact ih h
  | await awaited timeout next ih => exact ⟨h.1, fun reply => ih reply (h.2 reply)⟩
  | pause length next ih => exact ih h

/-- What is left of a dialogue heeds no more than the dialogue did. -/
theorem HeedsOnly.of_does {d left : Dialogue α} {acts : List Act} (h : d.HeedsOnly wanted)
    (hdoes : Does d acts left) : left.HeedsOnly wanted := by
  induction hdoes with
  | rest => exact h
  | fails => trivial
  | listens _ _ ih => exact ih h
  | sends _ _ ih => exact ih h
  | streams _ ih => exact ih h
  | takes _ _ _ ih => exact ih (h.2 _)
  | pauses _ ih => exact ih h

end Dialogue

/-! ## Two streams with the same ahead -/

theorem eq_of_append_cons_eq {γ : Type} {P : γ → Prop} {before before' after after' : List γ}
    {x x' : γ} (h : before' ++ x' :: after' = before ++ x :: after) (hbefore : ∀ y ∈ before, ¬ P y)
    (hbefore' : ∀ y ∈ before', ¬ P y) (hx : P x) (hx' : P x') : x' = x ∧ after' = after := by
  induction before generalizing before' with
  | nil =>
    cases before' with
    | nil => exact List.cons.inj h
    | cons y before' =>
      obtain ⟨rfl, -⟩ := List.cons.inj h
      exact absurd hx (hbefore' _ (.head _))
  | cons y before ih =>
    cases before' with
    | nil =>
      obtain ⟨rfl, -⟩ := List.cons.inj h
      exact absurd hx' (hbefore _ (.head _))
    | cons y' before' =>
      exact ih (List.cons.inj h).2 (fun z hz => hbefore z (.tail _ hz))
        fun z hz => hbefore' z (.tail _ hz)

/-- Two streams, each in its own world, that have the same heeded packets ahead. -/
structure SameAhead (wanted : Packet → Bool) (stream stream' : ReplyStream)
    (packets packets' : Broadcast Packet) : Prop where
  seen : stream'.seen = stream.seen
  unread : (packets'.unread stream'.next).filter wanted =
    (packets.unread stream.next).filter wanted
  next_le : stream.next ≤ packets.tail
  next_le' : stream'.next ≤ packets'.tail

namespace SameAhead

variable {stream stream' : ReplyStream} {packets packets' : Broadcast Packet}

theorem symm (h : SameAhead wanted stream stream' packets packets') :
    SameAhead wanted stream' stream packets' packets :=
  ⟨h.seen.symm, h.unread.symm, h.next_le', h.next_le⟩

/-- Both streams see a packet that is sent to both channels, or neither has an eye for it. -/
theorem send (h : SameAhead wanted stream stream' packets packets')
    (hclosed : packets'.closed = packets.closed) (p : Packet) :
    SameAhead wanted stream stream' (packets.send p) (packets'.send p) := by
  refine ⟨h.seen, ?_, Nat.le_trans h.next_le (Broadcast.extends_send packets p).tail_le,
    Nat.le_trans h.next_le' (Broadcast.extends_send packets' p).tail_le⟩
  cases hopen : packets.closed with
  | true =>
    have hsame : packets.send p = packets := if_pos hopen
    have hsame' : packets'.send p = packets' := if_pos (hclosed.trans hopen)
    rw [hsame, hsame']
    exact h.unread
  | false =>
    rw [Broadcast.unread_send hopen p h.next_le,
      Broadcast.unread_send (hclosed.trans hopen) p h.next_le', List.filter_append,
      List.filter_append, h.unread]

/-- A packet that is not heeded makes no difference to what is ahead. -/
theorem send_left (h : SameAhead wanted stream stream' packets packets') {p : Packet}
    (hp : wanted p = false) : SameAhead wanted stream stream' (packets.send p) packets' := by
  refine ⟨h.seen, ?_, Nat.le_trans h.next_le (Broadcast.extends_send packets p).tail_le, h.next_le'⟩
  cases hopen : packets.closed with
  | true =>
    have hsame : packets.send p = packets := if_pos hopen
    rw [hsame]
    exact h.unread
  | false =>
    rw [Broadcast.unread_send hopen p h.next_le, List.filter_append, h.unread]
    simp [hp]

end SameAhead

namespace ReplyStream

theorem pollState_congr {inbox inbox' : Inbox} {stream stream' : ReplyStream}
    (hstate : inbox'.state = inbox.state) (hseen : stream'.seen = stream.seen) :
    (pollState inbox' stream').1 = (pollState inbox stream).1 := by
  unfold pollState
  rw [hstate, hseen]
  split
  · rfl
  · rfl
  · simp only
    split <;> rfl

/-- What one stream has nothing of, the other has nothing of. -/
theorem none_ahead {judge : Packet → Option β} {unread unread' : List Packet}
    (h : unread'.filter wanted = unread.filter wanted)
    (hheeds : ∀ p, wanted p = false → judge p = none) (hnone : ∀ p ∈ unread, judge p = none) :
    ∀ p ∈ unread', judge p = none := by
  intro p hp
  cases hwanted : wanted p with
  | false => exact hheeds p hwanted
  | true =>
    have hmem : p ∈ unread.filter wanted := h ▸ List.mem_filter.mpr ⟨hp, hwanted⟩
    exact hnone p (List.mem_filter.mp hmem).1

/-- The first packet that is judged is the same in both, and so are the heeded ones behind it. -/
theorem judged_ahead {judge : Packet → Option β} {before before' after after' : List Packet}
    {packet packet' : Packet}
    (h : (before' ++ packet' :: after').filter wanted = (before ++ packet :: after).filter wanted)
    (hheeds : ∀ p, wanted p = false → judge p = none) (hbefore : ∀ p ∈ before, judge p = none)
    (hbefore' : ∀ p ∈ before', judge p = none) (hjudge : judge packet ≠ none)
    (hjudge' : judge packet' ≠ none) :
    packet' = packet ∧ after'.filter wanted = after.filter wanted := by
  have hwanted {p : Packet} (hp : judge p ≠ none) : wanted p = true := by
    cases hw : wanted p with
    | true => rfl
    | false => exact absurd (hheeds p hw) hp
  rw [List.filter_append, List.filter_append, List.filter_cons_of_pos (hwanted hjudge),
    List.filter_cons_of_pos (hwanted hjudge')] at h
  refine eq_of_append_cons_eq (P := fun p => judge p ≠ none) h ?_ ?_ hjudge hjudge'
  · intro p hp
    exact not_not_intro (hbefore p (List.mem_filter.mp hp).1)
  · intro p hp
    exact not_not_intro (hbefore' p (List.mem_filter.mp hp).1)

/-- Looking at two such streams finds the same and leaves the same ahead. -/
theorem poll_congr {awaited : Awaited} {inbox inbox' : Inbox} {stream stream' : ReplyStream}
    (h : SameAhead wanted stream stream' inbox.packets inbox'.packets)
    (hheeds : ∀ p, wanted p = false → awaited.judge p = none)
    (hreach : inbox.packets.oldest ≤ stream.next) (hreach' : inbox'.packets.oldest ≤ stream'.next)
    (hstate : inbox'.state = inbox.state) (hclosed : inbox'.packets.closed = inbox.packets.closed) :
    (poll awaited inbox' stream').1 = (poll awaited inbox stream).1 ∧
      SameAhead wanted (poll awaited inbox stream).2 (poll awaited inbox' stream').2 inbox.packets
        inbox'.packets := by
  have hle := (next_poll awaited h.next_le).2
  have hle' := (next_poll awaited h.next_le').2
  have hlook := look awaited inbox stream
  have hlook' := look awaited inbox' stream'
  generalize poll awaited inbox stream = x at hlook hle ⊢
  generalize poll awaited inbox' stream' = x' at hlook' hle' ⊢
  -- Behind everything that has arrived nothing is ahead.
  have hnil (packets : Broadcast Packet) (position : Nat) :
      packets.unread (position + (packets.unread position).length) = [] := by
    rw [Broadcast.unread_add]
    exact List.drop_length
  cases hlook with
  | lagged hlag => exact absurd hlag (Nat.not_lt.mpr hreach)
  | @judged before after packet outcome _ hunread hbefore hjudge =>
    have hsome : awaited.judge packet ≠ none := by rw [hjudge]; nofun
    have hmem : packet ∈ inbox.packets.unread stream.next := by rw [hunread]; simp
    cases hlook' with
    | lagged hlag => exact absurd hlag (Nat.not_lt.mpr hreach')
    | @judged before' after' packet' outcome' _ hunread' hbefore' hjudge' =>
      have hfilter := h.unread
      rw [hunread, hunread'] at hfilter
      have hsome' : awaited.judge packet' ≠ none := by rw [hjudge']; nofun
      obtain ⟨rfl, hafter⟩ := judged_ahead hfilter hheeds hbefore hbefore' hsome hsome'
      refine ⟨hjudge'.symm.trans hjudge, h.seen, ?_, hle, hle'⟩
      rw [Broadcast.unread_add, Broadcast.unread_add, hunread, hunread',
        List.drop_length_add_append, List.drop_length_add_append]
      exact hafter
    | ended _ hnone _ => exact absurd (none_ahead h.unread.symm hheeds hnone packet hmem) hsome
    | passed _ hnone _ => exact absurd (none_ahead h.unread.symm hheeds hnone packet hmem) hsome
  | ended _ hnone hended =>
    have hnone' := none_ahead h.unread hheeds hnone
    cases hlook' with
    | lagged hlag => exact absurd hlag (Nat.not_lt.mpr hreach')
    | judged _ hunread' _ hjudge' =>
      rw [hunread'] at hnone'
      rw [hnone' _ (by simp)] at hjudge'
      cases hjudge'
    | ended => exact ⟨rfl, h.seen, by rw [hnil, hnil], hle, hle'⟩
    | passed _ _ hopen =>
      rw [hclosed, hended] at hopen
      cases hopen
  | passed _ hnone hopen =>
    have hnone' := none_ahead h.unread hheeds hnone
    cases hlook' with
    | lagged hlag => exact absurd hlag (Nat.not_lt.mpr hreach')
    | judged _ hunread' _ hjudge' =>
      rw [hunread'] at hnone'
      rw [hnone' _ (by simp)] at hjudge'
      cases hjudge'
    | ended _ _ hended =>
      rw [hclosed, hopen] at hended
      cases hended
    | passed =>
      refine ⟨congrArg (Option.map _) (pollState_congr hstate h.seen), ?_, ?_, hle, hle'⟩
      · rw [seen_pollState, seen_pollState, hstate]
      · rw [pollState_next, pollState_next, hnil, hnil]

end ReplyStream

/-! ## Two courses that cannot be told apart -/

/-- Two quiet worlds that look the same but for their packets. -/
structure World.Alike (world world' : World) : Prop where
  view : world'.view = world.view
  quiet : world.Quiet
  quiet' : world'.Quiet

theorem World.Alike.write {world world' : World} (h : world.Alike world') (bytes : Bytes) :
    (world'.write bytes).1 = (world.write bytes).1 ∧
      (world.write bytes).2.Alike (world'.write bytes).2 ∧
      (world.write bytes).2.link.inbox = world.link.inbox ∧
      (world'.write bytes).2.link.inbox = world'.link.inbox := by
  obtain ⟨htaken, hquiet, hview, hinbox⟩ := World.write_quiet h.quiet bytes
  obtain ⟨htaken', hquiet', hview', hinbox'⟩ := World.write_quiet h.quiet' bytes
  refine ⟨?_, ⟨?_, hquiet, hquiet'⟩, hinbox, hinbox'⟩
  · rw [htaken, htaken', h.view]
  · rw [hview, hview', h.view]

namespace Course

/-- Two courses of one dialogue that have come equally far. -/
structure Alike (wanted : Packet → Bool) (course course' : Course α) : Prop where
  dialogue : course'.task.dialogue = course.task.dialogue
  deadline : course'.task.deadline = course.task.deadline
  frames : course'.frames = course.frames
  world : course.world.Alike course'.world
  ahead : SameAhead wanted course.task.stream course'.task.stream
    course.world.link.inbox.packets course'.world.link.inbox.packets

theorem Alike.result {course course' : Course α} (h : Alike wanted course course') :
    course'.result? = course.result? := congrArg Dialogue.result? h.dialogue

theorem alike_start (dialogue : Dialogue α) {world : World} (h : world.Quiet) :
    Alike wanted (start dialogue world) (start dialogue world) :=
  ⟨rfl, rfl, rfl, ⟨rfl, h, h⟩, rfl, rfl, Nat.zero_le _, Nat.zero_le _⟩

section

variable {dialogue next : Dialogue α} {stream stream' : ReplyStream} {deadline : Option Nat}
  {world world' : World} {acts acts' : List Act}

theorem alike_transmitted (bytes : Bytes) (hframes : framesOf acts' = framesOf acts)
    (hworld : world.Alike world') (hahead : SameAhead wanted stream stream'
      world.link.inbox.packets world'.link.inbox.packets) :
    Alike wanted (transmitted stream world acts bytes next)
      (transmitted stream' world' acts' bytes next) := by
  obtain ⟨htaken, halike, hinbox, hinbox'⟩ := hworld.write bytes
  rw [← hinbox, ← hinbox'] at hahead
  unfold transmitted
  generalize world.write bytes = x at htaken halike hahead ⊢
  generalize world'.write bytes = x' at htaken halike hahead ⊢
  obtain ⟨taken, after⟩ := x
  obtain ⟨taken', after'⟩ := x'
  cases htaken
  cases taken with
  | true => exact ⟨rfl, rfl, by simp [frames, hframes], halike, hahead⟩
  | false => exact ⟨rfl, rfl, hframes, halike, hahead⟩

theorem alike_waited {awaited : Awaited} {timeout : Duration}
    {next : awaited.Reply → Dialogue α} (hframes : framesOf acts' = framesOf acts)
    (hworld : world.Alike world') (hahead : SameAhead wanted stream stream'
      world.link.inbox.packets world'.link.inbox.packets) :
    Alike wanted (waited stream deadline world acts awaited timeout next)
      (waited stream' deadline world' acts' awaited timeout next) := by
  have hnow : world'.now = world.now := congrArg World.View.now hworld.view
  unfold waited
  rw [hnow]
  cases deadline with
  | none => exact ⟨rfl, rfl, hframes, hworld, hahead⟩
  | some time =>
    simp only
    split
    · exact ⟨rfl, rfl, hframes, hworld, hahead⟩
    · exact ⟨rfl, rfl, hframes, hworld, hahead⟩

end

/-- **One step keeps two courses alike**, as long as neither has missed anything: they look past
different packets and stop at the same one. -/
theorem alike_step {course course' : Course α} (h : Alike wanted course course')
    (hheeds : course.task.dialogue.HeedsOnly wanted) (hreach : course.inReach = true)
    (hreach' : course'.inReach = true) : Alike wanted course.step course'.step := by
  obtain ⟨⟨dialogue, stream, deadline⟩, world, acts⟩ := course
  obtain ⟨⟨dialogue', stream', deadline'⟩, world', acts'⟩ := course'
  obtain ⟨hdialogue, hdeadline, hframes, hworld, hahead⟩ := h
  cases hdialogue
  cases hdeadline
  cases dialogue with
  | done result => exact ⟨rfl, rfl, hframes, hworld, hahead⟩
  | subscribe next =>
    have hup : world'.link.isConnected = world.link.isConnected := by
      rw [World.isConnected_eq, World.isConnected_eq, hworld.view]
    rw [step_subscribe, step_subscribe, hup]
    split
    · refine ⟨rfl, rfl, ?_, hworld, ?_, ?_, Nat.le_refl _, Nat.le_refl _⟩
      · simpa [frames] using hframes
      · exact congrArg (·.announced.version) hworld.view
      · simp [ReplyStream.subscribe]
    · exact ⟨rfl, rfl, hframes, hworld, hahead⟩
  | send request next =>
    have htime : world'.unixTime = world.unixTime :=
      congrArg (fun view : World.View => view.epoch + UInt32.ofNat (view.now / 1000)) hworld.view
    rw [step_send, step_send, htime]
    split
    · exact ⟨rfl, rfl, hframes, hworld, hahead⟩
    · exact alike_transmitted _ hframes hworld hahead
  | stream bytes next =>
    rw [step_stream, step_stream]
    exact alike_transmitted bytes hframes hworld hahead
  | await awaited timeout next =>
    -- Only here do packets show, and only the heeded ones.
    obtain ⟨hfound, hafter⟩ := ReplyStream.poll_congr hahead hheeds.1 (of_decide_eq_true hreach)
      (of_decide_eq_true hreach') (congrArg World.View.announced hworld.view)
      (congrArg World.View.ended hworld.view)
    rw [step_await, step_await]
    generalize stream.poll awaited world.link.inbox = x at hfound hafter ⊢
    generalize stream'.poll awaited world'.link.inbox = x' at hfound hafter ⊢
    obtain ⟨found, after⟩ := x
    obtain ⟨found', after'⟩ := x'
    cases hfound
    rcases found with _ | e | reply
    · exact alike_waited hframes hworld hafter
    · exact ⟨rfl, rfl, hframes, hworld, hafter⟩
    · exact ⟨rfl, rfl, by simpa [frames] using hframes, hworld, hafter⟩
  | pause length next =>
    have hnow : world'.now = world.now := congrArg World.View.now hworld.view
    rw [step_pause, step_pause, hnow]
    split
    · exact ⟨rfl, rfl, hframes, hworld, hahead⟩
    · split
      · exact ⟨rfl, rfl, hframes, hworld, hahead⟩
      · exact ⟨rfl, rfl, hframes, hworld, hahead⟩

theorem Alike.symm {course course' : Course α} (h : Alike wanted course course') :
    Alike wanted course' course :=
  ⟨h.dialogue.symm, h.deadline.symm, h.frames.symm,
    ⟨h.world.view.symm, h.world.quiet', h.world.quiet⟩, h.ahead.symm⟩

theorem alike_meanwhile {course course' : Course α} (h : Alike wanted course course')
    (what : Happening) :
    Alike wanted (course.move (.meanwhile what)) (course'.move (.meanwhile what)) := by
  refine ⟨h.dialogue, h.deadline, h.frames, ⟨?_, World.quiet_undergo h.world.quiet what,
    World.quiet_undergo h.world.quiet' what⟩, ?_⟩
  · simp only [move]
    rw [World.undergo_view, World.undergo_view, h.world.view]
  · simp only [move]
    rw [World.undergo_packets, World.undergo_packets]
    cases what with
    | arrives p => exact h.ahead.send (congrArg World.View.ended h.world.view) p
    | passes milliseconds => exact h.ahead
    | enters state => exact h.ahead

/-- A packet that is not heeded may arrive in one of the courses alone. -/
theorem alike_unheeded {course course' : Course α} (h : Alike wanted course course') {p : Packet}
    (hp : wanted p = false) : Alike wanted (course.move (.meanwhile (.arrives p))) course' := by
  refine ⟨h.dialogue, h.deadline, h.frames,
    ⟨?_, World.quiet_undergo h.world.quiet _, h.world.quiet'⟩, h.ahead.send_left hp⟩
  simp only [move]
  rw [World.undergo_view]
  exact h.world.view

end Course

/-! ## Schedules that differ in unrelated packets -/

/-- Whether a move matters to one who heeds only what is wanted. -/
def Move.heeded (wanted : Packet → Bool) : Move → Bool
  | .meanwhile (.arrives p) => wanted p
  | _ => true

/-- Two schedules that differ in packets that are not wanted. -/
inductive Agree (wanted : Packet → Bool) : List Move → List Move → Prop where
  | nil : Agree wanted [] []
  | both {schedule schedule' : List Move} (move : Move) (later : Agree wanted schedule schedule') :
    Agree wanted (move :: schedule) (move :: schedule')
  | left {schedule schedule' : List Move} {p : Packet} (h : wanted p = false)
      (later : Agree wanted schedule schedule') :
    Agree wanted (.meanwhile (.arrives p) :: schedule) schedule'
  | right {schedule schedule' : List Move} {p : Packet} (h : wanted p = false)
      (later : Agree wanted schedule schedule') :
    Agree wanted schedule (.meanwhile (.arrives p) :: schedule')

/-- What is not heeded is the arrival of an unwanted packet and nothing else. -/
theorem Move.arrives_of_not_heeded {move : Move} (h : ¬ move.heeded wanted) :
    ∃ p, move = .meanwhile (.arrives p) ∧ wanted p = false := by
  match move with
  | .step => exact absurd rfl h
  | .meanwhile (.arrives p) => exact ⟨p, rfl, Bool.eq_false_iff.mpr h⟩
  | .meanwhile (.passes _) => exact absurd rfl h
  | .meanwhile (.enters _) => exact absurd rfl h

theorem agree_of_filter_eq {schedule schedule' : List Move}
    (h : schedule.filter (Move.heeded wanted) = schedule'.filter (Move.heeded wanted)) :
    Agree wanted schedule schedule' := by
  induction schedule generalizing schedule' with
  | nil =>
    induction schedule' with
    | nil => exact .nil
    | cons move' schedule' ih =>
      by_cases hmove' : move'.heeded wanted = true
      · rw [List.filter_cons_of_pos hmove'] at h
        cases h
      · rw [List.filter_cons_of_neg hmove'] at h
        obtain ⟨p, rfl, hp⟩ := Move.arrives_of_not_heeded hmove'
        exact .right hp (ih h)
  | cons move schedule ih =>
    by_cases hmove : move.heeded wanted = true
    · rw [List.filter_cons_of_pos hmove] at h
      -- The same move is found in the other schedule, behind packets that are not wanted.
      induction schedule' with
      | nil => cases h
      | cons move' schedule' ih' =>
        by_cases hmove' : move'.heeded wanted = true
        · rw [List.filter_cons_of_pos hmove'] at h
          obtain ⟨rfl, hlater⟩ := List.cons.inj h
          exact .both move (ih hlater)
        · rw [List.filter_cons_of_neg hmove'] at h
          obtain ⟨p, rfl, hp⟩ := Move.arrives_of_not_heeded hmove'
          exact .right hp (ih' h)
    · rw [List.filter_cons_of_neg hmove] at h
      obtain ⟨p, rfl, hp⟩ := Move.arrives_of_not_heeded hmove
      exact .left hp (ih h)

namespace Course

theorem heedsOnly_move (course : Course α) (h : course.task.dialogue.HeedsOnly wanted)
    (move : Move) : (course.move move).task.dialogue.HeedsOnly wanted := by
  cases move with
  | meanwhile what => exact h
  | step =>
    obtain ⟨acts, -, hdoes⟩ := course.does_step
    exact h.of_does hdoes

theorem alike_follow {course course' : Course α} {schedule schedule' : List Move}
    (hagree : Agree wanted schedule schedule') (h : Alike wanted course course')
    (hheeds : course.task.dialogue.HeedsOnly wanted) (hkeeps : course.keepsUp schedule = true)
    (hkeeps' : course'.keepsUp schedule' = true) :
    Alike wanted (course.follow schedule) (course'.follow schedule') := by
  induction hagree generalizing course course' with
  | nil => exact h
  | both move _ ih =>
    refine ih ?_ (heedsOnly_move _ hheeds move) (keepsUp_of_cons hkeeps) (keepsUp_of_cons hkeeps')
    cases move with
    | step =>
      exact alike_step h hheeds (inReach_of_keepsUp hkeeps) (inReach_of_keepsUp hkeeps')
    | meanwhile what => exact alike_meanwhile h what
  | left hp _ ih => exact ih (alike_unheeded h hp) hheeds (keepsUp_of_cons hkeeps) hkeeps'
  | right hp _ ih =>
    exact ih (alike_unheeded h.symm hp).symm hheeds hkeeps (keepsUp_of_cons hkeeps')

/-- The second course goes on to where it makes the next move of the first, unless that is one which
it need not make. -/
theorem alike_next {course course' : Course α} {move : Move} {schedule schedule' : List Move}
    (hagree : Agree wanted (move :: schedule) schedule') (h : Alike wanted course course')
    (hkeeps : course'.keepsUp schedule' = true) :
    (∃ p, move = .meanwhile (.arrives p) ∧ wanted p = false ∧ Agree wanted schedule schedule') ∨
      ∃ reached later, course'.follow schedule' = (reached.move move).follow later ∧
        Alike wanted course reached ∧ Agree wanted schedule later ∧
        reached.keepsUp (move :: later) = true := by
  generalize hmoves : move :: schedule = moves at hagree
  induction hagree generalizing course' with
  | nil => cases hmoves
  | both move later =>
    cases hmoves
    exact .inr ⟨course', _, rfl, h, later, hkeeps⟩
  | left hp later =>
    cases hmoves
    exact .inl ⟨_, rfl, hp, later⟩
  | right hp _ ih =>
    rcases ih (alike_unheeded h.symm hp).symm (keepsUp_of_cons hkeeps) hmoves with
      ⟨p, hmove, hp', later⟩ | hreached
    · exact .inl ⟨p, hmove, hp', .right hp later⟩
    · exact .inr hreached

/-- **Packets that a dialogue does not heed change neither its result nor its frames.** -/
theorem follow_of_agree {dialogue : Dialogue α} {world : World} {schedule schedule' : List Move}
    (hheeds : dialogue.HeedsOnly wanted) (hquiet : world.Quiet)
    (hagree : Agree wanted schedule schedule')
    (hkeeps : (start dialogue world).keepsUp schedule = true)
    (hkeeps' : (start dialogue world).keepsUp schedule' = true) :
    ((start dialogue world).follow schedule').result? =
        ((start dialogue world).follow schedule).result? ∧
      ((start dialogue world).follow schedule').frames =
        ((start dialogue world).follow schedule).frames := by
  have halike := alike_follow hagree (alike_start dialogue hquiet) hheeds hkeeps hkeeps'
  exact ⟨halike.result, halike.frames⟩

end Course
end SensorLink
