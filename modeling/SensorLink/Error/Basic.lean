import SensorLink.Error.BadParameter
import SensorLink.Error.Malformed
import SensorLink.Text.Integer

/-!
# Errors

One type for everything that can go wrong, with a constructor for each kind of failure and the cause
inside it. A caller tells failures apart by constructor; the wording is `Error.message`.

Some failures concern one command only and leave the link as it was: those are `recoverable`, and
the caller may simply try again.
-/

namespace SensorLink

section

variable {ε α β : Type} {x : Except ε α} {f : α → Except ε β}

theorem bind_eq_ok_iff {b : β} : x >>= f = .ok b ↔ ∃ a, x = .ok a ∧ f a = .ok b := by
  cases x <;> simp [bind, Except.bind]

/-- Of two things that can fail one after the other, one has failed. -/
theorem bind_eq_error_iff {e : ε} :
    x >>= f = .error e ↔ x = .error e ∨ ∃ a, x = .ok a ∧ f a = .error e := by
  cases x <;> simp [bind, Except.bind]

end

/-- Why a connection ended without being closed. -/
inductive LinkLoss where
  /-- The far end closed its direction. -/
  | endOfStream
  | readFailed (reason : String)
  | writeFailed (reason : String)
  /-- A frame was not taken by the link. -/
  | sendFailed
  /-- No packet can arrive any more. -/
  | streamClosed
  /-- The link went down during a wait. -/
  | disconnectedWhileWaiting
  deriving DecidableEq, Repr

/-- What is said about the end of a connection. -/
def LinkLoss.message : LinkLoss → String
  | .endOfStream => "end of stream"
  | .readFailed reason => s!"read failed: {reason}"
  | .writeFailed reason => s!"write failed: {reason}"
  | .sendFailed => "send failed"
  | .streamClosed => "packet stream closed"
  | .disconnectedWhileWaiting => "disconnected while waiting for a reply"

/-- Why the system did not do what it was asked. -/
inductive SystemFault where
  /-- The router does not take a connection. -/
  | connectionRefused
  | noSuchFile
  /-- A file that should be text is not UTF-8. -/
  | notText
  | other (reason : String)
  deriving DecidableEq, Repr

/-- What is said about a failure of the system. -/
def SystemFault.message : SystemFault → String
  | .connectionRefused => "memory router refused the connection"
  | .noSuchFile => "No such file or directory (os error 2)"
  | .notText => "stream did not contain valid UTF-8"
  | .other reason => reason

/-- Why a text is no command table. -/
inductive TableFault where
  /-- The text is no JSON, or it has another shape than a table. -/
  | unreadable
  /-- A number is too large for its field. -/
  | outOfRange (value : Nat)
  /-- A number in text is no hexadecimal number. -/
  | badNumber (text : String) (fault : Text.Integer.Fault)
  deriving DecidableEq, Repr

/-- What is said about a bad command table. -/
def TableFault.message : TableFault → String
  | .unreadable => "not a command table"
  | .outOfRange value => s!"value 0x{Hex.minimal value} out of range"
  | .badNumber text fault => s!"invalid hex value {Text.quote text}: {fault.message}"

/-- Everything that can go wrong. -/
inductive Error where
  | malformed (cause : Malformed)
  | linkLost (cause : LinkLoss)
  | alreadyConnecting
  | notConnected
  | unknownCommand (moduleName command : String)
  | missingData (command : String)
  | invalidDeviceId (text : String)
  | invalidParameter (cause : BadParameter)
  /-- A sensor refused a block of its new firmware. -/
  | blockRejected (sequence : UInt16) (result : UInt8) (unsent : Nat)
  | commandRejected (command result : UInt8)
  | timedOut (after : Duration)
  /-- Packets went by that a wait did not see. -/
  | repliesMissed (count : Nat)
  /-- The router refused its new firmware. -/
  | updateRefused (result : UInt8)
  | system (cause : SystemFault)
  | table (cause : TableFault)
  deriving Repr

namespace Error

/-- What is said about a failure. -/
def message : Error → String
  | .malformed cause => s!"Malformed packet: {cause.message}"
  | .linkLost cause => s!"Serial link lost: {cause.message}"
  | .alreadyConnecting => "Connection attempt already in progress"
  | .notConnected => "Not connected to a BraveJIG router"
  | .unknownCommand moduleName command =>
    s!"Unknown command '{command}' for module '{moduleName}'"
  | .missingData command => s!"Command '{command}' requires a data payload"
  | .invalidDeviceId text => s!"Invalid device id: {Text.quote text}"
  | .invalidParameter cause => s!"Invalid parameter: {cause.message}"
  | .blockRejected sequence result unsent =>
    s!"DFU block 0x{Hex.word sequence} rejected with result 0x{Hex.byte result} "
      ++ s!"({unsent} blocks not sent)"
  | .commandRejected command result =>
    s!"Command 0x{Hex.byte command} rejected with result 0x{Hex.byte result}"
  | .timedOut after => s!"Timed out after {after.text} waiting for a reply"
  | .repliesMissed count => s!"Fell behind the packet stream; {count} packets were dropped unseen"
  | .updateRefused result => s!"Router refused the firmware update with result 0x{Hex.byte result}"
  | .system cause => s!"I/O error: {cause.message}"
  | .table cause => s!"Module configuration error: {cause.message}"

/-- Whether the failure concerns one command only and leaves the link usable. -/
def recoverable : Error → Bool
  | .timedOut _ | .repliesMissed _ | .blockRejected .. | .updateRefused _
  | .commandRejected .. => true
  | _ => false

end Error
end SensorLink
