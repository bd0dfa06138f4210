import SensorLink.CommandLine.Synopsis
import SensorLink.Rehearsal.Session
import Std.Time.DateTime.Timestamp

/-!
# The program

What an invocation does has been decided when this layer gets it. Here bytes are moved between a
port and the link, the clock is read, and results are printed.

The port is used as the system has set it up. It should be raw, and a read of it should come back
empty when nothing arrives for a moment, since waiting for a reply is reading until its time is
over.
-/

namespace SensorLink

/-- A port that is open. -/
structure SerialPort where
  input : IO.FS.Handle
  output : IO.FS.Handle
  /-- The reading of the clock when the port was opened. -/
  started : Nat

namespace SerialPort

/-- The largest number of bytes that is read at once. -/
def readSize : Nat := 512

/-- Opens the port of a name. -/
def connect (name : String) : IO SerialPort := do
  let input ← IO.FS.Handle.mk name .read
  let output ← IO.FS.Handle.mk name .write
  return { input, output, started := ← IO.monoMsNow }

/-- Reads what has arrived. -/
def receive (port : SerialPort) : IO Bytes := do
  let mut bytes : Array UInt8 := #[]
  for _ in [0:readSize] do
    let byte ← port.input.read 1
    if byte.isEmpty then break
    bytes := bytes ++ byte.data
  return bytes.toList

/-- Hands over to the link what has arrived. -/
def deliver (port : SerialPort) (link : Link) : IO Link := do
  try
    let bytes ← port.receive
    return if bytes.isEmpty then link else (link.inject Observers.nobody bytes).2
  catch e => return link.failRead Observers.nobody (.fatal (toString e))

/-- Writes frames; a port that does not take one is lost. -/
def transmit (port : SerialPort) (frames : Array Bytes) (link : Link) : IO Link := do
  try
    for frame in frames do
      port.output.write ⟨frame.toArray⟩
      port.output.flush
    return link
  catch e => return link.lose Observers.nobody (.writeFailed (toString e))

/-- Sends what has been written on the link, and sets the clock. -/
def flush (port : SerialPort) (world : World) : IO World := do
  let link ← port.transmit world.written world.link
  return { world with link, written := #[], now := (← IO.monoMsNow) - port.started }

/-- Waits for a moment, hands over what has arrived, and sets the clock. -/
def exchange (port : SerialPort) (world : World) : IO World := do
  let link ← port.deliver world.link
  port.flush { world with link }

/-- Holds a dialogue. -/
def converse (port : SerialPort) (dialogue : Dialogue String) (start : World) :
    IO (Except Error String) := do
  let mut task : Task String := { dialogue }
  let mut world := start
  repeat
    match task.step world with
    | .finished result => return result
    | .moved next changed =>
      task := next
      world ← port.flush changed
    | .blocked next _ =>
      task := next
      world ← port.exchange world
  return .error .notConnected

/-- Prints packets until the time has come or the link is lost; says whether it was lost. -/
def watch (port : SerialPort) (deadline : Option Nat) (start : World) : IO Bool := do
  let mut world := start
  repeat
    let stream := ReplyStream.subscribe world.link.inbox
    world ← port.exchange world
    let (lines, lost) := world.look stream
    IO.print lines
    if lost then return true
    if deadline.any (· ≤ world.now) then return false
  return false

end SerialPort

namespace CommandLine

/-- Ends with a message about what went wrong. -/
def complain (cause : Failure) : IO UInt32 := do
  IO.eprintln cause.message
  return 1

/-- Carries out a plan. -/
def Plan.carryOut (port : SerialPort) (world : World) : Plan → IO UInt32
  | .print text => do
    IO.print text
    return 0
  | .watch length => do
    let lost ← port.watch (length.map (·.ticks)) world
    if lost then complain .linkLost else return 0
  | .converse dialogue => do
    match ← port.converse dialogue world with
    | .ok output =>
      IO.print output
      return 0
    | .error e => complain (.failed e)

/-- The file that an invocation names. -/
def Invocation.file? (invocation : Invocation) : Option String :=
  match invocation.job with
  | .ofRouter (.update file _) => some file
  | .ofModule task => task.firmware
  | _ => none

/-- The files that an invocation needs: the one that it names. -/
def Invocation.readFiles (invocation : Invocation) : IO Files := do
  match invocation.file? with
  | none => return fun _ => .error .noSuchFile
  | some file =>
    try
      let content ← IO.FS.readBinFile file
      return fun _ => .ok content.toList
    catch
      | .noFileOrDirectory .. => return fun _ => .error .noSuchFile
      | e => return fun _ => .error (.other (toString e))

/-- A world with a link that is up and the clock of the system. -/
def connectedWorld : IO World := do
  let time ← Std.Time.Timestamp.now
  let seconds : Int := time.toSecondsSinceUnixEpoch.val
  return {
    link := (({} : Link).connect Observers.nobody []).2
    epoch := UInt32.ofNat seconds.toNat }

/-- Carries out an invocation. -/
def Invocation.carryOut (invocation : Invocation) : IO UInt32 := do
  match invocation.job with
  | .modules =>
    IO.print (listing .builtin)
    return 0
  | _ =>
    try
      let port ← SerialPort.connect invocation.port
      match invocation.plan (← invocation.readFiles) .builtin with
      | .error cause => complain cause
      | .ok plan => plan.carryOut port (← connectedWorld)
    catch e =>
      IO.eprintln s!"Failed to open {invocation.port} at {invocation.baud} baud: {e}"
      return 1

end CommandLine
end SensorLink

/-- Runs the program. -/
def main (arguments : List String) : IO UInt32 := do
  match SensorLink.CommandLine.Invocation.parse arguments with
  | .ok invocation => invocation.carryOut
  | .error .information =>
    IO.print SensorLink.CommandLine.grammar.synopsis
    return 0
  | .error stop =>
    IO.eprint SensorLink.CommandLine.grammar.synopsis
    return stop.exitCode
