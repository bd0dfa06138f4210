import SensorLink.Framer

/-!
# The router's end of a link

The far side of a link, as the host can tell it apart: whether it takes connections, what the host
has written on the latest one and has not been read yet, and whether it has hung up. A write arrives
as one piece, so the router can also look at the requests in it one at a time; for that it keeps a
framer of its own and the requests that it has found and not yet handed out.
-/

namespace SensorLink

/-- A connection, seen from the router. -/
structure RouterSession where
  /-- What the host has written, one entry for each write, and the router has not taken yet. -/
  written : List Bytes := []
  /-- Whether the router sends nothing more. -/
  hungUp : Bool := false
  deriving Repr

/-- The router's end of a link. -/
structure RouterEnd where
  /-- How many connections there have been. They are numbered from one. -/
  connections : Nat := 0
  /-- Whether the router takes no connection. -/
  refusing : Bool := false
  /-- The latest connection. -/
  session : Option RouterSession := none
  framer : Framer := .fresh .hostToRouter
  /-- Requests that have been found and not handed out. -/
  pending : List Packet := []
  deriving Repr

namespace RouterEnd

/-- Takes a connection. It replaces the one before it. -/
def accept (router : RouterEnd) : RouterEnd :=
  -- The framer and the requests that were found stay: they are the router's, not the session's.
  { router with connections := router.connections + 1, session := some {} }

/-- Takes in a write of the host. -/
def write (router : RouterEnd) (bytes : Bytes) : RouterEnd :=
  { router with session := router.session.map fun s => { s with written := s.written ++ [bytes] } }

/-- Ends the router's side of the latest connection. -/
def hangUp (router : RouterEnd) : RouterEnd :=
  { router with session := router.session.map fun s => { s with hungUp := true } }

/-- Whether bytes can still be sent on the latest connection. -/
def canSend (router : RouterEnd) : Bool := router.session.any (!·.hungUp)

/-- Takes the oldest write of the host. -/
def takeWrite (router : RouterEnd) : Option Bytes × RouterEnd :=
  match router.session with
  | some { written := bytes :: rest, hungUp } =>
    (some bytes, { router with session := some { written := rest, hungUp } })
  | _ => (none, router)

/-- The packets among events. -/
def packetsOf (events : List FramerEvent) : List Packet :=
  events.filterMap fun
    | .packet packet _ => some packet
    | .discarded .. => none

theorem packetsOf_append (events later : List FramerEvent) :
    packetsOf (events ++ later) = packetsOf events ++ packetsOf later :=
  List.filterMap_append

/-- Takes writes until one of them completes a request: what is left of the writes, the requests
found and the framer. -/
def takeRequests (framer : Framer) : List Bytes → List Bytes × List Packet × Framer
  | [] => ([], [], framer)
  | bytes :: rest =>
    let (events, framer) := (framer.push bytes).drain
    match packetsOf events with
    | [] => takeRequests framer rest
    -- The other requests of this write wait in `pending` for the next calls.
    | found => (rest, found, framer)

/-- Takes the next request that the host has written. -/
def nextRequest (router : RouterEnd) : Option Packet × RouterEnd :=
  match router.pending with
  | packet :: rest => (some packet, { router with pending := rest })
  | [] =>
    match router.session with
    | none => (none, router)
    | some session =>
      let (written, found, framer) := takeRequests router.framer session.written
      let router := { router with session := some { session with written }, framer }
      match found with
      | packet :: rest => (some packet, { router with pending := rest })
      | [] => (none, router)

end RouterEnd
end SensorLink
