import SensorLink.Link.Line

/-!
# A line with what is written on it

A `Line` follows what comes from the router. A `Circuit` follows what goes there as well: what the
host sends, and what the router takes of it, as it was written or in requests.

A send looks at the state of the link and then asks for the writer, and between the two anything may
happen to the link. So besides the calls of a line, which are made in one go, a circuit has sends
that are made in two.

A circuit keeps books too: what was sent, what was taken and which requests were found, all with the
connection that was the latest then. Sent is what a send has said that it sent, whoever made it. A
send from inside another call is found in the events of the link, together with the connections that
came about before it.
-/

namespace SensorLink

/-! ## Deeds -/

/-- What calls on a link do to the router's end. -/
inductive Deed where
  /-- A connection has been taken. -/
  | accepted
  /-- Bytes have been sent. -/
  | sent (bytes : Bytes)
  deriving DecidableEq, Repr

/-- What a call has sent, by what it was answered. -/
def Call.deed? : Call → Answer → Option Deed
  | .send bytes _, .sent true => some (.sent bytes)
  | _, _ => none

/-- What has come about when this is told. -/
def Notice.deed? : Notice → Option Deed
  | .state .connected => some .accepted
  | _ => none

/-- The deed that an event speaks of. Of a connection the first observer hears first. -/
def LinkEvent.deed? : LinkEvent → Option Deed
  | .told observer notice => if observer = 0 then notice.deed? else none
  | .duringConnect record => record.call.deed? record.answer
  | .fromObserver record => record.call.deed? record.answer

/-- What was sent, each with its connection; `connection` was the latest to begin with. -/
def sendsOf (connection : Nat) : List Deed → List (Nat × Bytes)
  | [] => []
  | .accepted :: deeds => sendsOf (connection + 1) deeds
  | .sent bytes :: deeds => (connection, bytes) :: sendsOf connection deeds

namespace Link

/-- The second part of a send: asks for the writer and writes. -/
def finishSend (tell : Tell) (bytes : Bytes) (failure : Option String) (link : Link) :
    Bool × Link :=
  if ¬ link.hasWriter then (false, link)
  else if bytes.isEmpty then (true, link)
  else
    match failure with
    | some reason => (false, lose tell (.writeFailed reason) link)
    | none =>
      let link := { link with router := link.router.write bytes }
      (true, link.count fun s => { s with bytesSent := s.bytesSent + bytes.length })

/-- A send is the look at the state and its second part. -/
theorem send_eq (tell : Tell) (bytes : Bytes) (failure : Option String) (link : Link) :
    send tell bytes failure link =
      if link.isConnected then finishSend tell bytes failure link else (false, link) := by
  unfold send finishSend isConnected
  by_cases hstate : link.state = .connected
  · cases failure with
    | none => simp [hstate]
    | some reason => simp [hstate]
  · simp [hstate]

end Link

/-! ## Circuits -/

/-- What the host has written on the latest connection and the router has not taken. -/
def RouterEnd.written (router : RouterEnd) : List Bytes :=
  match router.session with
  | none => []
  | some session => session.written

/-- A line with what is written on it. -/
structure Circuit where
  line : Line := {}
  /-- Sends that have found the link up and have not asked for the writer. -/
  begun : List (Bytes × Option String) := []
  /-- What was sent, each with its connection, as in the other books. -/
  sent : List (Nat × Bytes) := []
  /-- The writes that the router has taken. -/
  taken : List (Nat × Bytes) := []
  /-- Those of them that it has taken to look for requests. -/
  framed : List (Nat × Bytes) := []
  /-- The requests that it has found. -/
  requests : List (Nat × Packet) := []

/-- What is done to a circuit from outside. -/
inductive Circuit.Move where
  | line (move : Line.Move)
  /-- A send looks at the state of the link. -/
  | beginSend (bytes : Bytes) (failure : Option String := none)
  /-- A send that was begun asks for the writer. -/
  | finishSend (index : Nat)
  /-- The router takes a write. -/
  | takeWrite
  /-- The router looks for a request. -/
  | nextRequest

/-- What a move on a line sends itself, as against what is sent from inside it. -/
def Line.Move.deed? (tell : Tell) (line : Line) : Line.Move → Option Deed
  | .call own => own.deed? (Link.perform tell own line.link).1
  | _ => none

/-- What is in a book for one connection. -/
def onConnection {α : Type} (connection : Nat) (book : List (Nat × α)) : List α :=
  book.filterMap fun (c, entry) => if c = connection then some entry else none

namespace Circuit

def router (circuit : Circuit) : RouterEnd := circuit.line.link.router

/-- The number of the latest connection. -/
def connection (circuit : Circuit) : Nat := circuit.line.connection

/-- Entries for the latest connection. -/
def latest {α : Type} (circuit : Circuit) (entries : List α) : List (Nat × α) :=
  entries.map (circuit.connection, ·)

/-- The line as a move has left it. What was sent from inside the move goes into the books first,
then what the move has sent itself. -/
def goOn (line : Line) (own : Option Deed) (circuit : Circuit) : Circuit :=
  let events := line.link.events.toList.drop circuit.line.link.events.size
  let deeds := events.filterMap LinkEvent.deed? ++ own.toList
  { circuit with line, sent := circuit.sent ++ sendsOf circuit.connection deeds }

/-- The router's end as it has been left. -/
def setRouter (router : RouterEnd) (circuit : Circuit) : Circuit :=
  { circuit with line := { circuit.line with link := { circuit.line.link with router } } }

/-- The router takes a write. -/
def takeWrite (circuit : Circuit) : Circuit :=
  let (write, router) := circuit.router.takeWrite
  { circuit.setRouter router with taken := circuit.taken ++ circuit.latest write.toList }

/-- The router looks for a request, for which it takes as many writes as it needs. -/
def nextRequest (circuit : Circuit) : Circuit :=
  let (request, router) := circuit.router.nextRequest
  let before := circuit.router.written
  let used := circuit.latest (before.take (before.length - router.written.length))
  { circuit.setRouter router with
    taken := circuit.taken ++ used
    framed := circuit.framed ++ used
    requests := circuit.requests ++ circuit.latest request.toList }

/-- Does one thing to a circuit. -/
def step (tell : Tell) (circuit : Circuit) : Move → Circuit
  | .line move => circuit.goOn (circuit.line.step tell move) (move.deed? tell circuit.line)
  | .beginSend bytes failure =>
    if circuit.line.link.isConnected then
      { circuit with begun := circuit.begun ++ [(bytes, failure)] }
    else circuit
  | .finishSend index =>
    match circuit.begun[index]? with
    | none => circuit
    | some (bytes, failure) =>
      let (success, link) := Link.finishSend tell bytes failure circuit.line.link
      -- What the move has sent itself is known by its answer, and goes in behind the rest.
      let own := if success then some (.sent bytes) else none
      { circuit.goOn { circuit.line with link } own with begun := circuit.begun.eraseIdx index }
  | .takeWrite => circuit.takeWrite
  | .nextRequest => circuit.nextRequest

/-- Does one thing after another. -/
def run (tell : Tell) (moves : List Move) (circuit : Circuit) : Circuit :=
  moves.foldl (step tell) circuit

end Circuit
end SensorLink
