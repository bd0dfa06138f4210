import SensorLink.Link.Observers

/-!
# A router that follows a script

To run a dialogue one needs a router that answers and a clock. Here the router follows a script: to
the first write of the host it answers with the first batch of the script, to the second with the
second, and so on. A batch is delivered during the write, before the host goes on. The clock counts
milliseconds and moves only when nobody has anything to do.

So a run depends on nothing but the script, and takes no time.
-/

namespace SensorLink

/-- Something that a scripted router sends. -/
inductive Delivery where
  | packet (packet : Packet)
  | bytes (bytes : Bytes)
  /-- The router's word on the latest request to a module. -/
  | acknowledge (unixTime : UInt32) (result : UInt8)
  deriving Repr

/-- What a scripted router does at once. -/
inductive Batch where
  /-- It sends things, each so many times, and may hang up after that. -/
  | send (deliveries : List (Delivery × Nat)) (hangUp : Bool)
  /-- It does not take the write. -/
  | refuse (reason : String)
  deriving Repr

/-- A link, the clock, and the script of the router. -/
structure World where
  link : Link := {}
  /-- Milliseconds since the start. -/
  now : Nat := 0
  /-- The time at the start. -/
  epoch : UInt32 := 0
  /-- What the next writes are answered by. -/
  replies : List Batch := []
  /-- What all later writes are answered by. -/
  later : Option Batch := none
  /-- What the host has written, the oldest first. -/
  written : Array Bytes := #[]
  /-- The latest request to a module. -/
  lastRequest : Option DownlinkRequest := none

namespace World

/-- The time that requests are stamped with. -/
def unixTime (world : World) : UInt32 := world.epoch + UInt32.ofNat (world.now / 1000)

/-- The bytes that a delivery stands for; none where there is nothing to send. -/
def bytesOf (world : World) : Delivery → Option Bytes
  | .packet packet => packet.encode.toOption
  | .bytes bytes => some bytes
  | .acknowledge unixTime result =>
    world.lastRequest.bind fun r =>
      (Packet.downlinkResponse
        { unixTime, device := r.device, sensor := r.sensor, order := r.order, command := r.command,
          result }).encode.toOption

/-- The router sends something so many times. -/
def deliver (world : World) (delivery : Delivery) (times : Nat) : World :=
  match world.bytesOf delivery with
  | none => world
  | some bytes =>
    let link := times.fold (fun _ _ link => (link.inject Observers.nobody bytes).2) world.link
    { world with link }

/-- The router does what a batch says. -/
def play (world : World) : Batch → World
  | .refuse _ => world
  | .send deliveries hangUp =>
    let world := deliveries.foldl
      (fun world (delivery, times) => world.deliver delivery times) world
    if hangUp then { world with link := world.link.hangUp Observers.nobody } else world

/-- What the next write is answered by, and the world without it. -/
def nextReply (world : World) : Option Batch × World :=
  match world.replies with
  | batch :: replies => (some batch, { world with replies })
  | [] => (world.later, world)

/-- The request to a module that a write holds. -/
def requestIn (bytes : Bytes) : Option DownlinkRequest :=
  match Packet.decode .hostToRouter bytes with
  | .ok (.downlinkRequest request) => some request
  | _ => none

/-- The host writes, and the router answers; says whether the write was taken. -/
def write (world : World) (bytes : Bytes) : Bool × World :=
  if bytes.isEmpty || !world.link.isConnected then
    let (taken, link) := world.link.send Observers.nobody bytes none
    (taken, { world with link })
  else
    match world.nextReply with
    | (some (.refuse reason), world) =>
      let (taken, link) := world.link.send Observers.nobody bytes (some reason)
      (taken, { world with link })
    | (batch, world) =>
      let (taken, link) := world.link.send Observers.nobody bytes none
      let world := { world with
        link := { link with router := link.router.takeWrite.2 }
        written := world.written.push bytes
        lastRequest := requestIn bytes <|> world.lastRequest }
      (taken, batch.elim world world.play)

end World
end SensorLink
