import Mathlib.Data.List.Forall2
import SensorLink.Dialogue.Command
import SensorLink.Proofs.Dialogue.Subscription

/-!
# Transfers of firmware to a module

A module writes its new firmware block by block, and a block that overtakes the one before it ruins
the image. So a transfer has to keep to an order that nothing on the link enforces: replies to old
blocks, to other modules and to nobody come in at any time, the link may go away, and one stream of
replies serves all of the blocks.

`Transferred` is the whole of what a transfer can do, as a grammar of its acts: a frame, the reply
to it, the next frame. A transfer of some blocks is such a sentence (`transferred_of_does`), and
what is to be known of a transfer is read off the sentence by induction. Together,

> **every transfer is orderly, at every moment and under every schedule** (`orderly_updateSensor`).
-/

namespace SensorLink.FirmwareUpdate

open Dialogue (Does Hazard sendBlocks updateSensor)

/-! ## Frames and replies -/

/-- The frame is a request that carries the block. -/
def FrameOf (update : FirmwareUpdate) (block : FirmwareBlock) (frame : Bytes) : Prop :=
  ∃ unixTime, (Packet.downlinkRequest (update.request unixTime block)).encode = .ok frame

/-- The packet is the router's word on the block. -/
def Answers (update : FirmwareUpdate) (block : FirmwareBlock) (result : UInt8) : Packet → Prop
  | .downlinkResponse r =>
    r.command = 0x12 ∧ r.device = update.device ∧ r.order = block.sequence ∧ r.result = result
  | _ => False

theorem Answers.result_eq {update : FirmwareUpdate} {block other : FirmwareBlock}
    {result result' : UInt8} {packet : Packet} (h : update.Answers block result packet)
    (h' : update.Answers other result' packet) : result = result' := by
  cases packet with
  | downlinkResponse r => exact h.2.2.2.symm.trans h'.2.2.2
  | _ => cases h

/-! ## The grammar of a transfer -/

/-- Neither a success nor the refusal of a block. -/
def Undecided : Option (Except Error Outcome) → Prop
  | some (.ok _) => False
  | some (.error (.blockRejected ..)) => False
  | _ => True

/-- What a transfer of some blocks can have done, and what it has come to then. -/
inductive Transferred (update : FirmwareUpdate) (outcome : Outcome) :
    List FirmwareBlock → List Act → Option (Except Error Outcome) → Prop where
  | complete : Transferred update outcome [] [] (some (.ok outcome))
  | unsent {block : FirmwareBlock} {blocks : List FirmwareBlock}
      {result : Option (Except Error Outcome)} (h : Undecided result) :
    Transferred update outcome (block :: blocks) [] result
  | unanswered {block : FirmwareBlock} {blocks : List FirmwareBlock} {frame : Bytes}
      {result : Option (Except Error Outcome)} (hframe : update.FrameOf block frame)
      (h : Undecided result) :
    Transferred update outcome (block :: blocks) [.wrote frame] result
  | rejected {block : FirmwareBlock} {blocks : List FirmwareBlock} {frame : Bytes}
      {position : Nat} {reply : Packet} {code : UInt8} (hframe : update.FrameOf block frame)
      (hreply : update.Answers block code reply) (hcode : code ≠ 0x00) :
    Transferred update outcome (block :: blocks) [.wrote frame, .took position reply]
      (some (.error (.blockRejected block.sequence code blocks.length)))
  | acknowledged {block : FirmwareBlock} {blocks : List FirmwareBlock} {frame : Bytes}
      {position : Nat} {reply : Packet} {acts : List Act}
      {result : Option (Except Error Outcome)} (hframe : update.FrameOf block frame)
      (hreply : update.Answers block 0x00 reply)
      (later : Transferred update outcome blocks acts result) :
    Transferred update outcome (block :: blocks) (.wrote frame :: .took position reply :: acts)
      result

variable {update : FirmwareUpdate} {outcome : Outcome} {timeout : Duration}

theorem undecided_of_send {request : UInt32 → Packet} {next : Dialogue Outcome} {e : Error}
    (h : Hazard (.send request next) e) : Undecided (some (.error e)) := by
  cases h <;> trivial

/-- A block is never refused by the wait itself: a bad word on it is a reply too. -/
theorem undecided_of_await {device : DeviceId} {command : UInt8} {sequence : UInt16}
    {next : DownlinkResponse → Dialogue Outcome} {e : Error}
    (h : Hazard (.await (.acknowledgement device command sequence) timeout next) e) :
    Undecided (some (.error e)) := by
  cases h with
  | late => trivial
  | missed count => trivial
  | lost cause => trivial
  | @refused _ _ _ packet _ h =>
    cases packet <;> simp only [Awaited.judge, reduceCtorEq] at h
    split at h <;> cases h

/-- The wait for an acknowledgement accepts a packet only if it answers the block. -/
theorem answers_of_judge {block : FirmwareBlock} {r : DownlinkResponse}
    (h : Awaited.judge (.acknowledgement update.device FirmwareBlock.command block.sequence)
      (.downlinkResponse r) = some (.ok r)) :
    update.Answers block r.result (.downlinkResponse r) := by
  simp only [Awaited.judge] at h
  split at h
  · rename_i hkey
    exact ⟨hkey.1, hkey.2.1, hkey.2.2, rfl⟩
  · cases h

theorem sendBlocks_cons_bind (update : FirmwareUpdate) (timeout : Duration)
    (block : FirmwareBlock) (blocks : List FirmwareBlock) (k : Unit → Dialogue Outcome) :
    (sendBlocks update timeout (block :: blocks) >>= k) =
      .send (fun t => .downlinkRequest (update.request t block))
        (.await (.acknowledgement update.device FirmwareBlock.command block.sequence) timeout
          fun ack : DownlinkResponse =>
            if ack.isSuccess then sendBlocks update timeout blocks >>= k
            else .done (.error (.blockRejected block.sequence ack.result blocks.length))) := by
  refine congrArg (Dialogue.send _) (congrArg (Dialogue.await _ timeout) ?_)
  funext ack
  change Dialogue.bind k (if ack.isSuccess then _ else _) = _
  split <;> rfl

/-- **Block by block**: what has been done of a transfer is described by the recursion of
`sendBlocks`, which stops at the first block that fails. -/
theorem transferred_of_does {blocks : List FirmwareBlock} {acts : List Act}
    {left : Dialogue Outcome}
    (h : Does (sendBlocks update timeout blocks >>= fun _ => pure outcome) acts left) :
    Transferred update outcome blocks acts left.result? := by
  induction blocks generalizing acts with
  | nil =>
    obtain ⟨rfl, rfl⟩ := Does.of_done h
    exact .complete
  | cons block blocks ih =>
    rw [sendBlocks_cons_bind] at h
    cases h with
    | rest => exact .unsent trivial
    | fails hazard => exact .unsent (undecided_of_send hazard)
    | sends hencode later =>
      have hframe : update.FrameOf block _ := ⟨_, hencode⟩
      cases later with
      | rest => exact .unanswered hframe trivial
      | fails hazard => exact .unanswered hframe (undecided_of_await hazard)
      | @takes _ _ _ _ acts position reply hjudge later =>
        have hreply := answers_of_judge hjudge
        beta_reduce at later
        -- What is left after the reply depends on what the reply says.
        by_cases hsuccess : reply.isSuccess = true
        · rw [if_pos hsuccess] at later
          have hzero : reply.result = 0x00 := of_decide_eq_true hsuccess
          rw [hzero] at hreply
          exact .acknowledged hframe hreply (ih later)
        · rw [if_neg hsuccess] at later
          obtain ⟨rfl, rfl⟩ := Does.of_done later
          exact .rejected hframe hreply fun hzero => hsuccess (decide_eq_true hzero)

/-! ## Reading a transfer -/

namespace Transferred

variable {blocks : List FirmwareBlock} {acts : List Act} {result : Option (Except Error Outcome)}

theorem frames (h : Transferred update outcome blocks acts result) :
    List.Forall₂ update.FrameOf (blocks.take (framesOf acts).length) (framesOf acts) := by
  induction h with
  | complete => exact .nil
  | unsent => exact .nil
  | unanswered hframe => exact .cons hframe .nil
  | rejected hframe => exact .cons hframe .nil
  | acknowledged hframe _ _ ih => exact .cons hframe ih

theorem answered (h : Transferred update outcome blocks acts result) :
    List.Forall₂ (fun block reply => ∃ code, update.Answers block code reply.2)
      (blocks.take (repliesOf acts).length) (repliesOf acts) := by
  induction h with
  | complete => exact .nil
  | unsent => exact .nil
  | unanswered => exact .nil
  | rejected _ hreply => exact .cons ⟨_, hreply⟩ .nil
  | acknowledged _ hreply _ ih => exact .cons ⟨_, hreply⟩ ih

/-- The first thing that a transfer does is to write. -/
theorem eq_nil_of_no_frames {before after : List Act} {frame : Bytes}
    (h : Transferred update outcome blocks (before ++ .wrote frame :: after) result)
    (hnone : framesOf before = []) : before = [] := by
  cases before with
  | nil => rfl
  | cons act before =>
    cases act with
    | wrote bytes => cases hnone
    | listened position => cases h
    | took position packet => cases h

/-- **No block is sent before the one in front of it was acknowledged**, and that was the last thing
to happen. -/
theorem acknowledged_before {before after : List Act} {frame : Bytes} {i : Nat}
    (h : Transferred update outcome blocks acts result)
    (hacts : acts = before ++ .wrote frame :: after) (hcount : (framesOf before).length = i + 1) :
    ∃ block earlier position reply, blocks[i]? = some block ∧
      before = earlier ++ [.took position reply] ∧ update.Answers block 0x00 reply := by
  -- The frame is not the first, so at least a frame and a reply stand before it.
  rcases before with _ | ⟨first, _ | ⟨second, before⟩⟩
  · cases hcount
  · subst hacts
    cases h
  induction h generalizing first second before i with
  | complete => simp at hacts
  | unsent => simp at hacts
  | unanswered => simp at hacts
  | rejected => simp at hacts
  | @acknowledged block blocks written position reply acts result _ hreply later ih =>
    simp only [List.cons_append, List.cons.injEq] at hacts
    obtain ⟨rfl, rfl, hacts⟩ := hacts
    rcases before with _ | ⟨third, _ | ⟨fourth, before⟩⟩
    · cases hcount
      exact ⟨block, [_], position, reply, rfl, rfl, hreply⟩
    · subst hacts
      cases later
    · -- Two more acts are the frame of the next block and its reply.
      cases i with
      | zero =>
        subst hacts
        have hnone : framesOf (third :: fourth :: before) = [] := by simpa using hcount
        cases eq_nil_of_no_frames later hnone
      | succ i =>
        have hcount : (framesOf (third :: fourth :: before)).length = i + 1 := by simpa using hcount
        obtain ⟨block, earlier, position, reply, hblock, hbefore, hreply⟩ :=
          ih third fourth before hacts hcount
        exact ⟨block, _ :: _ :: earlier, position, reply, hblock, by rw [hbefore]; rfl, hreply⟩

/-- A transfer succeeds just if every block was written and acknowledged. -/
theorem success_iff {found : Outcome} (h : Transferred update outcome blocks acts result) :
    result = some (.ok found) ↔ found = outcome ∧ (framesOf acts).length = blocks.length ∧
      List.Forall₂ (fun block reply => update.Answers block 0x00 reply.2) blocks
        (repliesOf acts) := by
  -- By the blocks as they were sent. An acknowledged one leaves the question to the rest; every
  -- other case has its answer.
  induction h with
  | complete =>
    constructor
    · intro hresult
      cases hresult
      exact ⟨rfl, rfl, .nil⟩
    · rintro ⟨rfl, -, -⟩
      rfl
  | unsent h =>
    constructor
    · rintro rfl
      exact h.elim
    · rintro ⟨-, hcount, -⟩
      cases hcount
  | unanswered _ h =>
    constructor
    · rintro rfl
      exact h.elim
    · rintro ⟨-, -, hreplies⟩
      cases hreplies
  | rejected _ hreply hcode =>
    constructor
    · intro hresult
      cases hresult
    · rintro ⟨-, -, hreplies⟩
      -- The first reply would have to be good and bad at once.
      cases hreplies with
      | cons hzero _ => exact absurd (hreply.result_eq hzero) hcode
  | acknowledged _ hreply _ ih =>
    rw [ih]
    refine and_congr_right fun _ => and_congr ?_ ?_
    · simp
    · exact ⟨fun hreplies => .cons hreply hreplies, fun hreplies => by cases hreplies; assumption⟩

/-- It is rejected just if the last answer was no success. The block and the code are those of that
answer, and the blocks behind it are the ones that were not sent. -/
theorem rejection_iff {sequence : UInt16} {code : UInt8} {unsent : Nat}
    (h : Transferred update outcome blocks acts result) :
    result = some (.error (.blockRejected sequence code unsent)) ↔
      code ≠ 0x00 ∧ (framesOf acts).length + unsent = blocks.length ∧
      ∃ (i : Nat) (block : FirmwareBlock) (position : Nat) (reply : Packet),
        blocks[i]? = some block ∧ (repliesOf acts)[i]? = some (position, reply) ∧
        block.sequence = sequence ∧ update.Answers block code reply := by
  induction h with
  | complete =>
    constructor
    · intro hresult
      cases hresult
    · rintro ⟨-, -, i, block, position, reply, hblock, -⟩
      cases hblock
  | unsent h =>
    constructor
    · rintro rfl
      exact h.elim
    · rintro ⟨-, -, i, block, position, reply, -, hreply, -⟩
      cases hreply
  | unanswered _ h =>
    constructor
    · rintro rfl
      exact h.elim
    · rintro ⟨-, -, i, block, position, reply, -, hreply, -⟩
      cases hreply
  | @rejected block blocks frame position reply _ _ hreply hcode =>
    constructor
    · intro hresult
      cases hresult
      exact ⟨hcode, Nat.add_comm 1 blocks.length, 0, block, position, reply, rfl, rfl, rfl,
        hreply⟩
    · rintro ⟨-, hcount, i, other, _, found, hblock, hfound, rfl, hanswer⟩
      cases i with
      | zero =>
        cases hblock
        cases hfound
        have hunsent : unsent = blocks.length := by
          simp only [framesOf_wrote, framesOf_took, List.length_cons] at hcount
          simp only [framesOf, List.filterMap_nil, List.length_nil] at hcount
          omega
        rw [hreply.result_eq hanswer, hunsent]
      | succ i => cases hfound
  | @acknowledged block blocks frame position reply acts result _ hreply _ ih =>
    rw [ih]
    refine and_congr_right fun hcode => and_congr ?_ ?_
    · simp only [framesOf_wrote, framesOf_took, List.length_cons]
      omega
    · constructor
      · rintro ⟨i, found⟩
        exact ⟨i + 1, found⟩
      · rintro ⟨i, other, place, found, hblock, hfound, hsequence, hanswer⟩
        cases i with
        | zero =>
          -- The reply to this very block was a good one.
          cases hblock
          cases hfound
          exact absurd (hanswer.result_eq hreply) hcode
        | succ i => exact ⟨i, other, place, found, hblock, hfound, hsequence, hanswer⟩

end Transferred

/-! ## The transfer as a command -/

/-- What a transfer keeps to, wherever it stands. -/
structure Orderly (update : FirmwareUpdate) (course : Course Outcome) : Prop where
  /-- The frames are those of the first blocks, one for each and in their order. -/
  frames : List.Forall₂ update.FrameOf (update.blocks.take course.frames.length) course.frames
  /-- Each reply is the router's word on the block that it is a reply to. -/
  answered : List.Forall₂ (fun block reply => ∃ code, update.Answers block code reply.2)
    (update.blocks.take course.replies.length) course.replies
  /-- Right before a block is written, the block before it was acknowledged. -/
  acknowledged : ∀ before frame after i, course.acts = before ++ .wrote frame :: after →
    (framesOf before).length = i + 1 → ∃ block earlier position reply,
      update.blocks[i]? = some block ∧ before = earlier ++ [.took position reply] ∧
      update.Answers block 0x00 reply
  /-- Replies are packets that were delivered after the transfer had begun to listen. -/
  subscribed : ∀ position reply, .took position reply ∈ course.acts →
    course.world.link.inbox.packets.sent[position]? = some reply ∧
    ∃ start, .listened start ∈ course.acts ∧ start ≤ position
  /-- No packet is the reply to two blocks. -/
  once : (course.replies.map Prod.fst).Pairwise (· < ·)
  success : ∀ outcome, course.result? = some (.ok outcome) ↔
    outcome = .updated update.blocks.length update.length ∧
    (∃ start, .listened start ∈ course.acts) ∧ course.frames.length = update.blocks.length ∧
    List.Forall₂ (fun block reply => update.Answers block 0x00 reply.2) update.blocks
      course.replies
  rejection : ∀ sequence code unsent,
    course.result? = some (.error (.blockRejected sequence code unsent)) ↔
      code ≠ 0x00 ∧ course.frames.length + unsent = update.blocks.length ∧
      ∃ (i : Nat) (block : FirmwareBlock) (position : Nat) (reply : Packet),
        update.blocks[i]? = some block ∧ course.replies[i]? = some (position, reply) ∧
        block.sequence = sequence ∧ update.Answers block code reply
  /-- Nothing is written once there is a result. -/
  final : ∀ result later, course.result? = some result →
    (course.follow later).frames = course.frames ∧ (course.follow later).result? = some result

theorem transferred_follow (update : FirmwareUpdate) (timeout : Duration) (world : World)
    (schedule : List Move) :
    let course := (Course.start (updateSensor update timeout) world).follow schedule
    (course.acts = [] ∧ Undecided course.result?) ∨
    ∃ start acts, course.acts = .listened start :: acts ∧
      Transferred update (.updated update.blocks.length update.length) update.blocks acts
        course.result? := by
  intro course
  have hdoes := Course.does_start schedule (updateSensor update timeout) world
  change Does (.subscribe (sendBlocks update timeout update.blocks >>= fun _ => pure _))
    course.acts course.task.dialogue at hdoes
  change (_ ∧ Undecided course.task.dialogue.result?) ∨ _
  generalize course.acts = acts at hdoes ⊢
  generalize hleft : course.task.dialogue = left at hdoes ⊢
  -- The transfer listens before it sends anything, or it ends there.
  cases hdoes with
  | rest => exact .inl ⟨rfl, trivial⟩
  | fails hazard =>
    cases hazard
    exact .inl ⟨rfl, trivial⟩
  | listens start later =>
    refine .inr ⟨start, _, rfl, ?_⟩
    rw [Course.result?, hleft]
    exact transferred_of_does later

section

variable {course : Course Outcome}

theorem final_of_result (result : Except Error Outcome) (later : List Move)
    (h : course.result? = some result) :
    (course.follow later).frames = course.frames ∧ (course.follow later).result? = some result :=
  ⟨congrArg framesOf (Course.follow_of_result h later).2, Course.result_follow h later⟩

theorem orderly_of_undecided (hacts : course.acts = []) (hresult : Undecided course.result?) :
    Orderly update course := by
  have hframes : course.frames = [] := by rw [Course.frames, hacts]; rfl
  have hreplies : course.replies = [] := by rw [Course.replies, hacts]; rfl
  refine ⟨by rw [hframes]; exact .nil, by rw [hreplies]; exact .nil, ?_, ?_,
    by rw [hreplies]; exact .nil, ?_, ?_, final_of_result⟩
  · intro before frame after i h
    rw [hacts] at h
    simp at h
  · intro position reply h
    rw [hacts] at h
    cases h
  · intro outcome
    constructor
    · intro h
      rw [h] at hresult
      exact hresult.elim
    · rintro ⟨-, ⟨start, h⟩, -⟩
      rw [hacts] at h
      cases h
  · intro sequence code unsent
    constructor
    · intro h
      rw [h] at hresult
      exact hresult.elim
    · rintro ⟨-, -, i, block, position, reply, -, h, -⟩
      rw [hreplies] at h
      cases h

theorem orderly_of_transferred {start : Nat} {acts : List Act} (hheard : course.Heard)
    (hacts : course.acts = .listened start :: acts)
    (h : Transferred update (.updated update.blocks.length update.length) update.blocks acts
      course.result?) : Orderly update course := by
  have hframes : course.frames = framesOf acts := by rw [Course.frames, hacts]; rfl
  have hreplies : course.replies = repliesOf acts := by rw [Course.replies, hacts]; rfl
  have hlistened : Act.listened start ∈ course.acts := by rw [hacts]; exact .head _
  refine ⟨?_, ?_, ?_, ?_, hheard.once, ?_, ?_, final_of_result⟩
  · rw [hframes]
    exact h.frames
  · rw [hreplies]
    exact h.answered
  · intro before frame after i hsplit hcount
    rw [hacts] at hsplit
    -- To listen is no frame, so it stands in front of any that count.
    rcases List.cons_eq_append_iff.mp hsplit with ⟨rfl, -⟩ | ⟨before, rfl, hlater⟩
    · cases hcount
    · have hcount : (framesOf before).length = i + 1 := hcount
      obtain ⟨block, earlier, position, reply, hblock, hbefore, hreply⟩ :=
        h.acknowledged_before hlater hcount
      exact ⟨block, .listened start :: earlier, position, reply, hblock, by rw [hbefore]; rfl,
        hreply⟩
  · -- Whatever was taken stands behind the act with which the transfer began to listen.
    intro position reply htook
    refine ⟨hheard.found _ htook, start, hlistened, ?_⟩
    have horder := hheard.inOrder
    rw [hacts] at horder htook
    rcases List.mem_cons.mp htook with htook | htook
    · cases htook
    · exact (List.pairwise_cons.mp horder).1 _ htook
  · intro outcome
    rw [hframes, hreplies, h.success_iff]
    exact and_congr_right fun _ => ⟨fun hdone => ⟨⟨start, hlistened⟩, hdone⟩, fun hdone => hdone.2⟩
  · intro sequence code unsent
    rw [hframes, hreplies]
    exact h.rejection_iff

end

/-- **Every transfer is orderly**, at every moment and under every schedule. -/
theorem orderly_updateSensor (update : FirmwareUpdate) (timeout : Duration) (world : World)
    (schedule : List Move) :
    Orderly update ((Course.start (updateSensor update timeout) world).follow schedule) := by
  have hheard := Course.heard_follow schedule
    (Course.heard_start (updateSensor update timeout) world)
  rcases transferred_follow update timeout world schedule with
    ⟨hacts, hresult⟩ | ⟨start, acts, hacts, htransferred⟩
  · exact orderly_of_undecided hacts hresult
  · exact orderly_of_transferred hheard hacts htransferred

end SensorLink.FirmwareUpdate
