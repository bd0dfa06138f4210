import SensorLink.Link.Observers

/-!
# A link with what is on its way to it

`Link.inject` reads what the router sends as soon as it is sent. A `Line` keeps the two apart: what
the router sends waits in the intake of the connection until the reader comes round, so anything may
happen to the link in between. Each connection has an intake of its own, and what is left in it when
the connection ends is never read.

A line keeps books: what was sent on each connection, and for each piece that was read, what
happened on the link while it was being dispatched.
-/

namespace SensorLink

/-- The host's end of what the router sends on a connection. -/
structure Intake where
  /-- The chunks that have arrived and were not begun. -/
  chunks : List Bytes := []
  /-- The chunk that is being read, and how much of it has been read. -/
  chunk : Bytes := []
  offset : Nat := 0

namespace Intake

/-- A chunk arrives. -/
def put (bytes : Bytes) (intake : Intake) : Intake :=
  { intake with chunks := intake.chunks ++ [bytes] }

/-- Reads at most so many bytes. A piece never reaches from one chunk into the next; there is none
if nothing has arrived. -/
def read (limit : Nat) (intake : Intake) : Option Bytes × Intake :=
  if intake.offset < intake.chunk.length then
    let piece := (intake.chunk.drop intake.offset).take limit
    (some piece, { intake with offset := intake.offset + piece.length })
  else
    match intake.chunks with
    | [] => (none, intake)
    | chunk :: chunks =>
      let piece := chunk.take limit
      (some piece, { chunks, chunk, offset := piece.length })

/-- What has arrived and was not read. -/
def unread (intake : Intake) : Bytes := intake.chunk.drop intake.offset ++ intake.chunks.flatten

end Intake

/-- A piece that was read, and what happened on the link until it was dispatched to its end. -/
structure Line.Reading where
  connection : Nat
  piece : Bytes
  events : List LinkEvent

/-- A link with what is on its way to it. -/
structure Line where
  link : Link := {}
  /-- What has arrived on each connection. -/
  intake : Nat → Intake := fun _ => {}
  /-- What the router has sent, each chunk with its connection. -/
  sent : List (Nat × Bytes) := []
  readings : List Line.Reading := []

/-- What is done to a line from outside. -/
inductive Line.Move where
  | call (call : Call)
  /-- From now on the router takes connections, or refuses them. -/
  | refuse (refusing : Bool)
  | inject (bytes : Bytes)
  | hangUp
  /-- The reader of the connection comes round once. -/
  | read
  | failRead (failure : Link.ReadFailure)

namespace Line

/-- The number of the latest connection. -/
def connection (line : Line) : Nat := line.link.router.connections

/-- Sets the intake of a connection. -/
def setIntake (connection : Nat) (intake : Intake) (line : Line) : Line :=
  { line with intake := fun n => if n = connection then intake else line.intake n }

/-- The router sends a chunk. It is lost if nobody is there to read it. -/
def inject (bytes : Bytes) (line : Line) : Line :=
  if line.link.router.canSend && line.link.isReading line.connection then
    { line.setIntake line.connection ((line.intake line.connection).put bytes) with
      sent := line.sent ++ [(line.connection, bytes)] }
  else line

/-- The reader finds the end of what the router sends. -/
def endRead (tell : Tell) (line : Line) : Line :=
  { line with link := Link.endReader tell line.connection .endOfStream line.link }

/-- The reader dispatches a piece. -/
def takePiece (tell : Tell) (piece : Bytes) (line : Line) : Line :=
  let link := Link.readPiece tell line.connection piece line.link
  let events := link.events.toList.drop line.link.events.size
  { line with
    link, readings := line.readings ++ [{ connection := line.connection, piece, events }] }

/-- The reader comes round once. No bytes at all read as the end, and so does a router that has hung
up when there is nothing left. -/
def read (tell : Tell) (line : Line) : Line :=
  if line.link.isReading line.connection then
    match (line.intake line.connection).read Link.pieceSize with
    | (none, _) => if line.link.router.canSend then line else line.endRead tell
    | (some piece, intake) =>
      let line := line.setIntake line.connection intake
      -- An empty chunk was sent, and reading it is told apart from the end by nothing.
      if piece.isEmpty then line.endRead tell else line.takePiece tell piece
  else line

/-- Does one thing to a line. -/
def step (tell : Tell) (line : Line) : Move → Line
  | .call call => { line with link := (Link.perform tell call line.link).2 }
  | .refuse refusing =>
    { line with link := { line.link with router := { line.link.router with refusing } } }
  | .inject bytes => line.inject bytes
  | .hangUp => { line with link := { line.link with router := line.link.router.hangUp } }
  | .read => line.read tell
  | .failRead failure => { line with link := Link.failRead tell failure line.link }

/-- Does one thing after another. -/
def run (tell : Tell) (moves : List Move) (line : Line) : Line := moves.foldl (step tell) line

/-- What the router has sent on a connection. -/
def sentOn (connection : Nat) (line : Line) : Bytes :=
  (line.sent.filterMap fun (c, bytes) => if c = connection then some bytes else none).flatten

/-- The pieces that were read on a connection. -/
def piecesOf (connection : Nat) (line : Line) : List Bytes :=
  line.readings.filterMap fun r => if r.connection = connection then some r.piece else none

/-- What was read on a connection. -/
def readOn (connection : Nat) (line : Line) : Bytes := (line.piecesOf connection).flatten

/-- What happened on the link while the pieces of a connection were being dispatched. -/
def eventsOf (connection : Nat) (line : Line) : List LinkEvent :=
  line.readings.flatMap fun r => if r.connection = connection then r.events else []

end Line
end SensorLink
