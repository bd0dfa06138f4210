import SensorLink.Link.Basic

/-!
# Reading from a router

What the router sends is read in pieces of at most 512 bytes. A reader looks before each piece
whether it has been stopped; a piece that has been read is dispatched to its end, whatever the
observers do to the link meanwhile. When there is nothing more to read, or reading fails, the
connection is lost, and the bytes of a frame that was not finished are lost with it.
-/

namespace SensorLink.Link

/-- How much is read at once. -/
def pieceSize : Nat := 512

/-- Delivers what the framer found: to the observers first, then to the subscribers. -/
def dispatch (tell : Tell) (link : Link) : FramerEvent → Link
  | .packet packet raw =>
    -- Counted first, so that an observer that asks when it is told finds the packet counted.
    let link := link.count fun s => { s with packetsReceived := s.packetsReceived + 1 }
    let link := tell [.frame raw, .packet packet] link
    { link with inbox := { link.inbox with packets := link.inbox.packets.send packet } }
  | .discarded cause _ =>
    let link := link.count fun s => { s with decodeErrors := s.decodeErrors + 1 }
    tell [.error (.malformed cause)] link

/-- Keeps the framer of a reader, if it is still reading. -/
def keepFramer (connection : Nat) (framer : Framer) (link : Link) : Link :=
  { link with
    readers := link.readers.map fun r =>
      if r.connection = connection then { r with framer } else r }

/-- One piece has been read. -/
def readPiece (tell : Tell) (connection : Nat) (piece : Bytes) (link : Link) : Link :=
  match link.readers.find? (·.connection = connection) with
  | none => link
  | some reader =>
    let link := link.count fun s => { s with bytesReceived := s.bytesReceived + piece.length }
    let (events, framer) := (reader.framer.push piece).drain
    let link := events.foldl (dispatch tell) link
    -- An observer may have stopped this reader, and then there is nothing to keep the framer in.
    link.keepFramer connection framer

/-- Bytes in pieces of the size that is read at once. -/
def pieces (bytes : Bytes) : List Bytes :=
  match _h : bytes with
  | [] => []
  | _ :: _ => bytes.take pieceSize :: pieces (bytes.drop pieceSize)
termination_by bytes.length
decreasing_by
  subst _h
  simp only [List.length_drop, List.length_cons, pieceSize]
  omega

/-- The reader of a connection stops after a failure. -/
def endReader (tell : Tell) (connection : Nat) (cause : LinkLoss) (link : Link) : Link :=
  if link.isReading connection then (lose tell cause link).stopReader connection else link

/-- The router's latest connection delivers bytes. No bytes at all read as the end. -/
def receive (tell : Tell) (bytes : Bytes) (link : Link) : Link :=
  let connection := link.router.connections
  if bytes.isEmpty then endReader tell connection .endOfStream link
  else (pieces bytes).foldl (fun link piece => readPiece tell connection piece link) link

/-- The router sends bytes; says whether anyone is there to read them. -/
def inject (tell : Tell) (bytes : Bytes) (link : Link) : Bool × Link :=
  if link.router.canSend && link.isReading link.router.connections then
    (true, receive tell bytes link)
  else (false, link)

/-- The router hangs up. -/
def hangUp (tell : Tell) (link : Link) : Link :=
  let link := { link with router := link.router.hangUp }
  if link.router.session.isSome then endReader tell link.router.connections .endOfStream link
  else link

/-- Why a read of the host fails. -/
inductive ReadFailure where
  /-- Nothing has arrived in time, or the read was interrupted: it is tried again. -/
  | transient
  | fatal (reason : String)
  deriving DecidableEq, Repr

/-- The next read of the host fails. -/
def failRead (tell : Tell) (failure : ReadFailure) (link : Link) : Link :=
  match failure with
  | .transient => link
  | .fatal reason => endReader tell link.router.connections (.readFailed reason) link

end SensorLink.Link
