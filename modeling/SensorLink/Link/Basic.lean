import SensorLink.Link.Router
import SensorLink.Reply.Stream

/-!
# A link to a router

A link has a state, a writer while it is up, and readers, which frame what arrives. What it delivers
goes two ways: to its observers, one call for each thing that happens, and to whoever subscribes to
its packets or watches its state.

An observer may call the link from inside a call that it gets. So every operation that tells
observers something takes `tell`, the way in which they are told, and gets back the link as they
leave it: `tell` may have done anything to the link that the link's own operations do. Nothing that
an operation does after telling relies on what it knew before.

Each connection has a number, and the reader of a connection carries it. A reader is in the list as
long as it can still deliver something; `handle` is the reader that the link knows as its own and
will stop when it closes.
-/

namespace SensorLink

/-- What an observer is told. -/
inductive Notice where
  | state (state : LinkState)
  /-- The bytes of a packet that has arrived. -/
  | frame (raw : Bytes)
  | packet (packet : Packet)
  /-- Bytes were given up, or the link was lost. -/
  | error (error : Error)
  deriving Repr

/-- A call that is made on a link. -/
inductive Call where
  /-- `during` are the calls that are made while the router is being connected. -/
  | connect (during : List Call)
  | close
  /-- `failure` is the reason why the link does not take the frame. -/
  | send (bytes : Bytes) (failure : Option String := none)
  | state

/-- What a call answers. -/
inductive Answer where
  | connected (result : Except Error Unit)
  | closed
  | sent (success : Bool)
  | state (state : LinkState)

/-- A call that was made from inside another: how it found the link, and what it was answered. -/
structure CallRecord where
  call : Call
  state : LinkState
  hasWriter : Bool
  answer : Answer

/-- Something that happened on a link, in the order in which it happened. -/
inductive LinkEvent where
  /-- An observer was told something. -/
  | told (observer : Nat) (notice : Notice)
  /-- A call was made while the router was being connected. -/
  | duringConnect (record : CallRecord)
  /-- An observer made a call from inside a call. -/
  | fromObserver (record : CallRecord)

/-- What has been counted. The counters are words of 64 bits that wrap; runs on which none of them
comes to 2 ^ 64 are meant, and there a natural number counts the same. -/
structure LinkStats where
  bytesReceived : Nat := 0
  bytesSent : Nat := 0
  connectionAttempts : Nat := 0
  packetsReceived : Nat := 0
  decodeErrors : Nat := 0
  deriving DecidableEq, Repr

/-- The reader of a connection and the bytes that it has not used. -/
structure LinkReader where
  connection : Nat
  framer : Framer
  deriving Repr

/-- A link. -/
structure Link where
  state : LinkState := .disconnected
  /-- What is published to subscribers. -/
  inbox : Inbox := ⟨.withCapacity 256, { value := .disconnected }⟩
  hasWriter : Bool := false
  readers : List LinkReader := []
  handle : Option Nat := none
  /-- Whether a close is going on. It holds off every other connect and close. -/
  closing : Bool := false
  stats : LinkStats := {}
  router : RouterEnd := {}
  /-- What has happened, the oldest first. -/
  events : Array LinkEvent := #[]

/-- Tells every observer some things, in turn: one observer all of them, then the next. -/
abbrev Tell := List Notice → Link → Link

namespace Link

/-- Whether the link is up. -/
def isConnected (link : Link) : Bool := link.state = .connected

/-- Takes note of something that has happened. -/
def record (event : LinkEvent) (link : Link) : Link :=
  { link with events := link.events.push event }

/-- Changes what has been counted. -/
def count (change : LinkStats → LinkStats) (link : Link) : Link :=
  { link with stats := change link.stats }

/-- Makes a state known. -/
def publish (tell : Tell) (state : LinkState) (link : Link) : Link :=
  tell [.state state]
    { link with inbox := { link.inbox with state := link.inbox.state.publish state } }

/-- Enters a state and makes it known, unless the link is in it already. -/
def enter (tell : Tell) (state : LinkState) (link : Link) : Link :=
  if link.state = state then link else publish tell state { link with state }

/-! ## Readers -/

/-- Whether the reader of a connection can still deliver something. -/
def isReading (connection : Nat) (link : Link) : Bool :=
  link.readers.any (·.connection = connection)

/-- Stops the reader of a connection. -/
def stopReader (connection : Nat) (link : Link) : Link :=
  { link with readers := link.readers.filter (·.connection ≠ connection) }

/-- Stops the reader that the link knows as its own, and forgets it. -/
def reap (link : Link) : Link :=
  match link.handle with
  | none => link
  | some connection => { link.stopReader connection with handle := none }

/-! ## Losing a connection -/

/-- Takes the link down after a failure, if it is up. -/
def breakDown (tell : Tell) (cause : LinkLoss) (link : Link) : Link :=
  if link.state ≠ .connected then link
  else
    -- The state is entered before anyone is told and published after, so what is published last is
    -- this state, whatever observers have done in between.
    let link := { link with state := .disconnected, hasWriter := false }
    let link := tell [.error (.linkLost cause)] link
    publish tell .disconnected link

/-- A connection has failed. The first failure stops the link's reader and takes the link down; once
the reader has been stopped, a failure is no news. -/
def lose (tell : Tell) (cause : LinkLoss) (link : Link) : Link :=
  match link.handle with
  | none => breakDown tell cause link
  | some connection =>
    if link.isReading connection then breakDown tell cause (link.stopReader connection) else link

/-! ## Writing -/

/-- Writes one whole frame; says whether it was written. `failure` is the reason why the link does
not take it. Nothing at all is written without asking the link, so that cannot fail. -/
def send (tell : Tell) (bytes : Bytes) (failure : Option String) (link : Link) : Bool × Link :=
  if link.state ≠ .connected ∨ ¬ link.hasWriter then (false, link)
  else if bytes.isEmpty then (true, link)
  else
    match failure with
    | some reason => (false, lose tell (.writeFailed reason) link)
    | none =>
      let link := { link with router := link.router.write bytes }
      (true, link.count fun s => { s with bytesSent := s.bytesSent + bytes.length })

/-! ## Closing -/

/-- Closes the link. A link that is not up is left alone. -/
def close (tell : Tell) (link : Link) : Link :=
  if link.closing ∨ link.state ≠ .connected then link
  else
    -- From here to the end no observer can connect or close the link again.
    let link := publish tell .closing { link with state := .closing, closing := true }
    let link := reap { link with hasWriter := false }
    let link := enter tell .disconnected link
    { link with closing := false }

end Link
end SensorLink
