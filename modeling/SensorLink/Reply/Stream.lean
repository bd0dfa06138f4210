import SensorLink.Channel.Broadcast
import SensorLink.Channel.Watch
import SensorLink.Link.State
import SensorLink.Reply.Awaited

/-!
# Waiting for a reply

A `ReplyStream` is taken before a request is sent, so that no answer to it can slip past, and waits
are made on it one after another. It is a position in the packets that the link delivers and a
version of the link's state, and looking at it never takes anything away from another stream.

`poll` looks at what is there. Packets come first: as long as one of them may be the answer, it does
not matter that the link has gone down since. Only then is a change of state looked at, and each
change is reported once. A stream that has fallen so far behind that packets were overwritten says
so, since the answer may have been among them. When `poll` has nothing to say the wait goes on.
-/

namespace SensorLink

/-- What a link publishes: its packets and its state. -/
structure Inbox where
  packets : Broadcast Packet
  state : Watch LinkState
  deriving Repr

/-- The positions of a waiter in what a link publishes. -/
structure ReplyStream where
  /-- The position of the next packet. -/
  next : Nat
  /-- The version of the state that has been seen. -/
  seen : Nat
  deriving DecidableEq, Repr

namespace ReplyStream

/-- A stream that begins now. -/
def subscribe (inbox : Inbox) : ReplyStream := ⟨inbox.packets.tail, inbox.state.version⟩

/-- What the first of some packets that is not passed over comes to, and how many packets have been
looked at. -/
def firstJudged (awaited : Awaited) : List Packet → Option (Except Error awaited.Reply) × Nat
  | [] => (none, 0)
  | packet :: rest =>
    match awaited.judge packet with
    | some outcome => (some outcome, 1)
    | none =>
      let (outcome, looked) := firstJudged awaited rest
      (outcome, looked + 1)

/-- What the state of the link comes to once there is no packet left. -/
def pollState (inbox : Inbox) (stream : ReplyStream) : Option Error × ReplyStream :=
  let lost : Error := .linkLost .disconnectedWhileWaiting
  match inbox.state.look stream.seen with
  | .unchanged => (none, stream)
  | .closed => (some lost, stream)
  | .changed value =>
    let stream := { stream with seen := inbox.state.version }
    -- States in between were never looked at; only the newest one counts.
    if value = .disconnected ∨ inbox.state.closed then (some lost, stream) else (none, stream)

/-- What a wait comes to by what is there, `none` if it has to go on; and the stream after that. -/
def poll (awaited : Awaited) (inbox : Inbox) (stream : ReplyStream) :
    Option (Except Error awaited.Reply) × ReplyStream :=
  let oldest := inbox.packets.oldest
  if stream.next < oldest then
    (some (.error (.repliesMissed (oldest - stream.next))), { stream with next := oldest })
  else
    match firstJudged awaited (inbox.packets.unread stream.next) with
    | (some outcome, looked) => (some outcome, { stream with next := stream.next + looked })
    | (none, looked) =>
      let stream := { stream with next := stream.next + looked }
      -- No packet decides. The state is the next to be asked, before the clock.
      if inbox.packets.closed then (some (.error (.linkLost .streamClosed)), stream)
      else
        let (lost, stream) := pollState inbox stream
        (lost.map .error, stream)

end ReplyStream
end SensorLink
