import SensorLink.CommandLine.Plan
import SensorLink.Rehearsal.Run

/-!
# A run of the program with a scripted router

An invocation is carried out on a link that is open. What the user sees of it is what is printed,
the status that the program ends with and, if it failed, a message.

Watching the link is no dialogue: nothing is sent, and the end comes from outside. Packets are
printed before a loss of the link is noticed. A watcher that has fallen behind goes on with the
oldest packet that is kept. When nothing will happen any more, the user stops it.
-/

namespace SensorLink

open CommandLine (Plan Failure Files Invocation)

/-- What the user sees of a run. -/
structure Transcript where
  exitCode : UInt32
  output : String := ""
  message : Option String := none

namespace Transcript

/-- A run that went well. -/
def success (output : String) : Transcript := { exitCode := 0, output }

/-- A run that printed something and failed. -/
def failure (output : String) (cause : Failure) : Transcript :=
  { exitCode := 1, output, message := some cause.message }

/-- A run that the user interrupted. -/
def interrupted : Transcript := { exitCode := 130 }

end Transcript

/-- A packet as a watcher prints it. -/
def Packet.line (packet : Packet) : String := packet.report.compact ++ "\n"

namespace World

/-- What a watcher at `stream` prints, and whether it finds the link lost. -/
def look (stream : ReplyStream) (world : World) : String × Bool :=
  let inbox := world.link.inbox
  let packets := inbox.packets.unread (max stream.next inbox.packets.oldest)
  (String.join (packets.map Packet.line),
    inbox.state.version ≠ stream.seen && !world.link.isConnected)

/-- Watches the link while the router does things unasked, up to a certain time. `stream` is where
the watcher is; `output` is what it has printed. -/
def watch (deadline : Option Nat) (stream : ReplyStream) (output : String) (world : World) :
    Traffic → Transcript × World
  | [] => (.success output, deadline.elim world world.waitUntil)
  | (time, batch) :: rest =>
    if deadline.any (· ≤ time) then (.success output, deadline.elim world world.waitUntil)
    else
      let world := (world.waitUntil time).play batch
      let (lines, lost) := world.look stream
      if lost then (.failure (output ++ lines) .linkLost, world)
      else watch deadline (.subscribe world.link.inbox) (output ++ lines) world rest

end World

namespace CommandLine

/-- Carries out a plan. `limit` is the time at which the user interrupts it. -/
def Plan.rehearse (limit : Option Nat) (traffic : Traffic) (world : World) :
    Plan → Transcript × World
  | .print text => (.success text, world)
  | .watch length =>
    world.watch (length.map fun d => world.now + d.ticks) (.subscribe world.link.inbox) "" traffic
  | .converse dialogue =>
    match Task.run limit traffic { dialogue } world with
    | (.completed (.ok output), world) => (.success output, world)
    | (.completed (.error e), world) => (.failure "" (.failed e), world)
    | (.abandoned, world) => (.interrupted, world)

/-- Carries out an invocation. -/
def Invocation.rehearse (files : Files) (registry : ModuleRegistry) (limit : Option Nat)
    (traffic : Traffic) (world : World) (invocation : Invocation) : Transcript × World :=
  match invocation.plan files registry with
  | .error cause => (.failure "" cause, world)
  | .ok plan => plan.rehearse limit traffic world

end CommandLine
end SensorLink
