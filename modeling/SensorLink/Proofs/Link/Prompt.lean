import SensorLink.Proofs.Link.Books

/-!
# Links that are read promptly

`Link.inject` has what the router sends read at once, and `Link.hangUp` has its end noticed at once.
A line lets anything happen in between, so what is done to a link in that way is one of the things
that can be done to a line:

> **whatever is done to a link that is read promptly, some run of a line comes to the same link**
> (`exists_run`).

What holds of a link after every run of a line therefore holds here as well. The run that does it
reads after each chunk until nothing of it is left, or until the reader has been stopped.
-/

namespace SensorLink

namespace Intake

/-- All that is left has been begun. -/
def Holds (rest : Bytes) (intake : Intake) : Prop :=
  intake.chunks = [] ∧ intake.chunk.drop intake.offset = rest

theorem holds_start : Holds [] {} := ⟨rfl, rfl⟩

theorem drop_take_length (bytes : Bytes) (limit : Nat) :
    bytes.drop (bytes.take limit).length = bytes.drop limit := by
  rw [List.length_take]
  rcases Nat.le_total limit bytes.length with h | h
  · rw [Nat.min_eq_left h]
  · rw [Nat.min_eq_right h, List.drop_length, List.drop_of_length_le h]

/-- A chunk that was begun is read on piece by piece, each of them as large as can be. -/
theorem read_of_holds (limit : Nat) {rest : Bytes} {intake : Intake} (h : intake.Holds rest)
    (hrest : rest ≠ []) :
    ∃ after, intake.read limit = (some (rest.take limit), after) ∧
      after.Holds (rest.drop limit) := by
  obtain ⟨hchunks, rfl⟩ := h
  have hmore : intake.offset < intake.chunk.length := by
    rw [ne_eq, List.drop_eq_nil_iff] at hrest
    omega
  unfold read
  rw [if_pos hmore]
  refine ⟨_, rfl, hchunks, ?_⟩
  simp only [← List.drop_drop, drop_take_length]

theorem read_none_of_holds {limit : Nat} {intake : Intake} (h : intake.Holds []) :
    intake.read limit = (none, intake) := by
  obtain ⟨hchunks, hdone⟩ := h
  have hend := List.drop_eq_nil_iff.mp hdone
  unfold read
  rw [if_neg (by omega), hchunks]

/-- If nothing was left, a new chunk is the one to be read. -/
theorem read_of_put (limit : Nat) {intake : Intake} (h : intake.Holds []) (bytes : Bytes) :
    ∃ after, (intake.put bytes).read limit = (some (bytes.take limit), after) ∧
      after.Holds (bytes.drop limit) := by
  obtain ⟨hchunks, hdone⟩ := h
  have hend := List.drop_eq_nil_iff.mp hdone
  refine ⟨{ chunks := [], chunk := bytes, offset := (bytes.take limit).length }, ?_, rfl,
    drop_take_length bytes limit⟩
  unfold read put
  rw [if_neg (by simp only; omega)]
  simp only [hchunks, List.nil_append]

end Intake

namespace Link

/-- Once the reader has been stopped, there is nobody to read. What is left of a chunk is lost with
it. -/
theorem readPiece_of_not_reading {tell : Tell} {connection : Nat} {link : Link}
    (h : ¬ link.isReading connection = true) (piece : Bytes) :
    readPiece tell connection piece link = link := by
  have hnone : link.readers.find? (·.connection = connection) = none := by
    rw [List.find?_eq_none]
    intro r hr hconnection
    exact h (List.any_eq_true.mpr ⟨r, hr, hconnection⟩)
  rw [readPiece, hnone]

theorem foldl_readPiece_of_not_reading {tell : Tell} {connection : Nat} {link : Link}
    (h : ¬ link.isReading connection = true) (pieces : List Bytes) :
    pieces.foldl (fun link piece => readPiece tell connection piece link) link = link := by
  induction pieces with
  | nil => rfl
  | cons piece pieces ih => rw [List.foldl_cons, readPiece_of_not_reading h, ih]

theorem pieces_nil : pieces [] = [] := by
  rw [pieces.eq_def]

theorem pieces_of_ne_nil {bytes : Bytes} (h : bytes ≠ []) :
    pieces bytes = bytes.take pieceSize :: pieces (bytes.drop pieceSize) := by
  cases bytes with
  | nil => exact absurd rfl h
  | cons byte bytes => rw [pieces.eq_def]

/-- What is done to a link that is read promptly. -/
def undergo (tell : Tell) (link : Link) : Line.Move → Link
  | .call call => (perform tell call link).2
  | .refuse refusing => { link with router := { link.router with refusing } }
  | .inject bytes => (inject tell bytes link).2
  | .hangUp => hangUp tell link
  | .read => link
  | .failRead failure => failRead tell failure link

end Link

namespace Line

variable {observers : Observers}

/-- Nothing is left for the reader. -/
def CaughtUp (line : Line) : Prop :=
  line.link.isReading line.connection = true → (line.intake line.connection).Holds []

theorem run_append (tell : Tell) (moves later : List Move) (line : Line) :
    line.run tell (moves ++ later) = (line.run tell moves).run tell later :=
  List.foldl_append

theorem Advance.connection_le {line after : Line} {move : Move}
    (h : Advance observers line move after) : line.connection ≤ after.connection := by
  cases h with
  | undergoes _ _ hlink => exact hlink.connections
  | arrives bytes => exact Nat.le_refl _
  | ends _ hlink => exact hlink.connections
  | dispatches _ _ hmiddle => exact hmiddle.connections

/-! ## One read -/

section Read

variable {tell : Tell} {line : Line} (hreading : line.link.isReading line.connection = true)
  {after : Intake}
include hreading

theorem read_piece {piece : Bytes}
    (hread : (line.intake line.connection).read Link.pieceSize = (some piece, after))
    (hpiece : piece ≠ []) :
    line.read tell = (line.setIntake line.connection after).takePiece tell piece := by
  have hsome : ¬ (piece.isEmpty = true) := by simpa using hpiece
  unfold read
  rw [if_pos hreading, hread]
  simp only [if_neg hsome]

/-- An empty piece is taken for the end of what the router sends. -/
theorem read_nothing
    (hread : (line.intake line.connection).read Link.pieceSize = (some [], after)) :
    line.read tell = (line.setIntake line.connection after).endRead tell := by
  unfold read
  rw [if_pos hreading, hread]
  rfl

theorem read_end (hread : (line.intake line.connection).read Link.pieceSize = (none, after))
    (hhungUp : line.link.router.canSend = false) : line.read tell = line.endRead tell := by
  unfold read
  rw [if_pos hreading, hread]
  simp [hhungUp]

end Read

theorem read_of_not_reading {tell : Tell} {line : Line}
    (h : ¬ line.link.isReading line.connection = true) : line.read tell = line := by
  unfold read
  rw [if_neg h]

/-- A step that reads nothing leaves nothing behind for the reader. -/
theorem CaughtUp.undergo {line : Line} (h : line.Balanced observers) (hcaught : line.CaughtUp)
    {causes : LinkLoss → Prop} {events : List LinkEvent} {link : Link}
    (hlink : Link.Episode observers causes (fun _ => []) [] line.link events link) :
    CaughtUp { line with link } := by
  intro hreading
  obtain ⟨r, hr, hconnection⟩ := List.any_eq_true.mp hreading
  have hconnection := of_decide_eq_true hconnection
  change (line.intake link.router.connections).Holds []
  rcases hlink.readers r hr with hold | ⟨hnew, -⟩
  · have hsame := h.chronicle.settled.connection_eq hold
    have hlatest := hlink.settled.connection_eq hr
    rw [← hlatest, hsame]
    exact hcaught (List.any_eq_true.mpr ⟨r, hold, decide_eq_true hsame⟩)
  · have hlatest := hlink.settled.connection_eq hr
    rw [hlatest] at hnew
    rw [(h.later _ hnew).2]
    exact Intake.holds_start

/-! ## Reading on -/

/-- A reading of a piece: what it makes of the link, and what it leaves in the intakes. -/
theorem read_front (tell : Tell) {line : Line} {rest : Bytes} {after : Intake}
    (hreading : line.link.isReading line.connection = true) (hrest : rest ≠ [])
    (hread : (line.intake line.connection).read Link.pieceSize =
      (some (rest.take Link.pieceSize), after)) :
    (line.read tell).link =
        Link.readPiece tell line.connection (rest.take Link.pieceSize) line.link ∧
      ∀ c, (line.read tell).intake c = if c = line.connection then after else line.intake c := by
  have hpiece : rest.take Link.pieceSize ≠ [] := by
    simpa [Link.pieceSize] using hrest
  rw [read_piece hreading hread hpiece]
  exact ⟨rfl, fun c => rfl⟩

/-- Where the reader of a connection is gone, one that has come after it has yet to begin. -/
theorem caughtUp_of_gone {line next : Line} (h : line.Balanced observers) {move : Move}
    (hadvance : Advance observers line move next)
    (hgone : ¬ next.link.isReading line.connection = true)
    (hintake : ∀ c, c ≠ line.connection → next.intake c = line.intake c) : next.CaughtUp := by
  intro hreading
  have hother : next.connection ≠ line.connection := by
    intro hsame
    rw [hsame] at hreading
    exact hgone hreading
  have hlater : line.connection < next.connection :=
    Nat.lt_of_le_of_ne hadvance.connection_le (Ne.symm hother)
  rw [hintake _ hother, (h.later _ hlater).2]
  exact Intake.holds_start

variable (hdiscreet : observers.Discreet) (depth : Nat)
include hdiscreet

/-- Reading goes on until the chunk is used up or the reader has been stopped. -/
theorem run_reads {line : Line} (h : line.Balanced observers) {rest : Bytes} {after : Intake}
    (hreading : line.link.isReading line.connection = true) (hrest : rest ≠ [])
    (hread : (line.intake line.connection).read Link.pieceSize =
      (some (rest.take Link.pieceSize), after))
    (hafter : after.Holds (rest.drop Link.pieceSize)) :
    ∃ n, (line.run (observers.tell depth) (List.replicate n .read)).link =
        (Link.pieces rest).foldl
          (fun link piece => Link.readPiece (observers.tell depth) line.connection piece link)
          line.link ∧
      (line.run (observers.tell depth) (List.replicate n .read)).CaughtUp := by
  -- By induction on what is left of the chunk, as `Link.pieces` cuts it.
  generalize hlength : rest.length = length
  induction length using Nat.strongRecOn generalizing line rest after with
  | ind length ih =>
    obtain ⟨hlink, hintake⟩ := read_front (observers.tell depth) hreading hrest hread
    have hadvance := advance_read hdiscreet depth h.chronicle.settled .read
    have hbalanced := h.advance hadvance
    generalize hnext : line.read (observers.tell depth) = next
      at hlink hintake hadvance hbalanced
    have hone : line.run (observers.tell depth) [.read] = next := hnext
    rw [Link.pieces_of_ne_nil hrest, List.foldl_cons, ← hlink]
    by_cases hgone : next.link.isReading line.connection = true
    · have hsame : line.connection = next.connection :=
        (hbalanced.chronicle.settled.isReading hgone).1
      have hnow : (next.intake next.connection).Holds (rest.drop Link.pieceSize) := by
        rw [hintake, if_pos hsame.symm]
        exact hafter
      by_cases hdone : rest.drop Link.pieceSize = []
      · refine ⟨1, ?_, ?_⟩
        · rw [hdone, Link.pieces_nil]
          exact congrArg Line.link hone
        · rw [List.replicate_one, hone]
          exact fun _ => hdone ▸ hnow
      · obtain ⟨later, hlater, hholds⟩ := Intake.read_of_holds Link.pieceSize hnow hdone
        have hshorter : (rest.drop Link.pieceSize).length < length := by
          have := List.length_pos_iff.mpr hrest
          rw [List.length_drop, ← hlength, Link.pieceSize]
          omega
        rw [hsame] at hgone ⊢
        obtain ⟨n, hn, hcaught⟩ := ih _ hshorter hbalanced hgone hdone hlater hholds rfl
        refine ⟨n + 1, ?_, ?_⟩
        · rw [← hn, ← hnext]
          rfl
        · rw [← hnext] at hcaught
          exact hcaught
    · refine ⟨1, ?_, ?_⟩
      · rw [Link.foldl_readPiece_of_not_reading hgone]
        exact congrArg Line.link hone
      · rw [List.replicate_one, hone]
        exact caughtUp_of_gone h hadvance hgone fun c hc => by rw [hintake, if_neg hc]

theorem caughtUp_of_ended {line : Line} (h : line.link.Settled) {cause : LinkLoss} {after : Line}
    (hafter : after.link =
      Link.endReader (observers.tell depth) line.connection cause line.link) : after.CaughtUp := by
  have htell := Observers.announces_tell hdiscreet depth
  have hdown : after.link.readers = [] := by
    rw [hafter, connection, Link.endReader_eq htell h]
    rcases h with hdown | ⟨framer, hup⟩
    · rw [Link.lose_down hdown, hdown.readers]
    · rw [Link.lose_up htell hup]
      rfl
  intro hreading
  rw [Link.isReading, hdown] at hreading
  cases hreading

/-- **A chunk that is read at once is a chunk that arrives and is then read**, as often as it takes,
with nothing in between. -/
theorem exists_run_inject {line : Line} (h : line.Balanced observers) (hcaught : line.CaughtUp)
    (bytes : Bytes) :
    ∃ moves, (line.run (observers.tell depth) moves).link =
        (Link.inject (observers.tell depth) bytes line.link).2 ∧
      (line.run (observers.tell depth) moves).CaughtUp := by
  unfold Link.inject Link.receive
  split
  · rename_i hthere
    have hreading : line.link.isReading line.connection = true := (Bool.and_eq_true_iff.mp hthere).2
    have hput : line.inject bytes = line.arrived bytes := by
      rw [inject_eq, connection, if_pos hthere]
    -- Nothing was left in the intake, so the first piece is the front of this chunk.
    obtain ⟨after, hread, hafter⟩ :=
      Intake.read_of_put Link.pieceSize (hcaught hreading) bytes
    have hread : ((line.arrived bytes).intake line.connection).read Link.pieceSize =
        (some (bytes.take Link.pieceSize), after) := by
      simp only [arrived, if_pos]
      exact hread
    have hreading' : (line.arrived bytes).link.isReading (line.arrived bytes).connection = true :=
      hreading
    by_cases hnil : bytes = []
    -- A chunk of nothing ends the connection at the first look.
    · subst hnil
      have hend : (line.run (observers.tell depth) [.inject [], .read]).link =
          Link.endReader (observers.tell depth) line.connection .endOfStream line.link := by
        change ((line.inject []).read _).link = _
        rw [hput, read_nothing hreading' hread]
        rfl
      exact ⟨_, hend, caughtUp_of_ended hdiscreet depth h.chronicle.settled hend⟩
    · obtain ⟨n, hn, hafterwards⟩ := run_reads hdiscreet depth (h.arrived bytes) hreading hnil hread
        hafter
      have hsome : ¬ (bytes.isEmpty = true) := by simpa using hnil
      simp only [if_neg hsome]
      refine ⟨.inject bytes :: List.replicate n .read, ?_, ?_⟩
      · change ((line.inject bytes).run _ _).link = _
        rw [hput]
        exact hn
      · change ((line.inject bytes).run _ _).CaughtUp
        rw [hput]
        exact hafterwards
  · exact ⟨[], rfl, hcaught⟩

/-- A hang-up that is noticed at once is one with a read behind it, since nothing is left to be
read. -/
theorem exists_run_hangUp {line : Line} (h : line.Balanced observers) (hcaught : line.CaughtUp) :
    ∃ moves, (line.run (observers.tell depth) moves).link =
        Link.hangUp (observers.tell depth) line.link ∧
      (line.run (observers.tell depth) moves).CaughtUp := by
  -- The line once the router has hung up, and nobody has noticed.
  generalize hquiet : line.step (observers.tell depth) .hangUp = quiet
  have hlink : quiet.link = { line.link with router := line.link.router.hangUp } := by
    rw [← hquiet]
    rfl
  have hsettled : quiet.link.Settled := by
    rw [hlink]
    exact h.chronicle.settled.of_eq rfl rfl rfl rfl rfl rfl
  have hstill : quiet.CaughtUp := by
    rw [← hquiet]
    exact hcaught
  have hconnection : line.link.router.hangUp.connections = quiet.connection := by
    rw [connection, hlink]
  unfold Link.hangUp
  simp only [← hlink, hconnection]
  split
  · rename_i hsession
    have hhungUp : quiet.link.router.canSend = false := by
      rw [hlink]
      unfold RouterEnd.canSend RouterEnd.hangUp
      cases line.link.router.session <;> rfl
    have hend : (line.run (observers.tell depth) [.hangUp, .read]).link =
        Link.endReader (observers.tell depth) quiet.connection .endOfStream quiet.link := by
      change ((line.step _ .hangUp).read _).link = _
      rw [hquiet]
      by_cases hreading : quiet.link.isReading quiet.connection = true
      · rw [read_end hreading (Intake.read_none_of_holds (hstill hreading)) hhungUp]
        rfl
      · rw [read_of_not_reading hreading, Link.endReader, if_neg hreading]
    exact ⟨_, hend, caughtUp_of_ended hdiscreet depth hsettled hend⟩
  · refine ⟨[.hangUp], ?_, ?_⟩
    · exact congrArg Line.link hquiet
    · change (line.step (observers.tell depth) .hangUp).CaughtUp
      rw [hquiet]
      exact hstill

/-- What is done to a link that is read promptly can be done to a line in some steps. -/
theorem exists_run_move {line : Line} (h : line.Balanced observers) (hcaught : line.CaughtUp)
    (move : Move) :
    ∃ moves, (line.run (observers.tell depth) moves).link =
        line.link.undergo (observers.tell depth) move ∧
      (line.run (observers.tell depth) moves).CaughtUp := by
  have hsettled := h.chronicle.settled
  cases move with
  | inject bytes => exact exists_run_inject hdiscreet depth h hcaught bytes
  | hangUp => exact exists_run_hangUp hdiscreet depth h hcaught
  | read => exact ⟨[], rfl, hcaught⟩
  | call call =>
    obtain ⟨events, hepisode⟩ :=
      Link.episode_perform (Observers.announces_tell hdiscreet depth) hsettled call
    exact ⟨[.call call], rfl, hcaught.undergo h hepisode⟩
  | refuse refusing =>
    have hepisode : Link.Episode observers (fun _ => False) (fun _ => []) [] line.link []
        { line.link with router := { line.link.router with refusing } } :=
      .of_router hsettled rfl
    exact ⟨[.refuse refusing], rfl, hcaught.undergo h hepisode⟩
  | failRead failure =>
    cases failure with
    | transient => exact ⟨[], rfl, hcaught⟩
    | fatal reason =>
      exact ⟨[.failRead (.fatal reason)], rfl, caughtUp_of_ended hdiscreet depth hsettled rfl⟩

/-- **Whatever is done to a link that is read promptly, some run of a line comes to the same
link.** -/
theorem exists_run (moves : List Move) :
    ∃ schedule, (run (observers.tell depth) schedule {}).link =
      moves.foldl (Link.undergo (observers.tell depth)) {} := by
  suffices h : ∀ line : Line, line.Balanced observers → line.CaughtUp →
      ∃ schedule, (line.run (observers.tell depth) schedule).link =
        moves.foldl (Link.undergo (observers.tell depth)) line.link by
    exact h {} balanced_start fun _ => Intake.holds_start
  induction moves with
  | nil => exact fun line _ _ => ⟨[], rfl⟩
  | cons move moves ih =>
    intro line hline hcaught
    obtain ⟨now, hnow, hcaught⟩ := exists_run_move hdiscreet depth hline hcaught move
    obtain ⟨later, hlater⟩ := ih _ (balanced_run hdiscreet depth hline now) hcaught
    refine ⟨now ++ later, ?_⟩
    rw [run_append, hlater, hnow]
    rfl

end Line
end SensorLink
