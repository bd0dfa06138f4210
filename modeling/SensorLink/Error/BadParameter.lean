import SensorLink.Illuminance.Limits
import SensorLink.Json.Value
import SensorLink.Text.Hex
import SensorLink.Text.Quoted
import SensorLink.Time.Duration

/-!
# Arguments that are refused

Everything that a caller can get wrong in what it asks for, before or while a request is made up.
-/

namespace SensorLink

/-- The width of an unsigned settings field. -/
inductive Width where
  | byte
  | word
  | long
  deriving DecidableEq, Repr

namespace Width

/-- The first number that does not fit. -/
def limit : Width → Nat
  | .byte => 2 ^ 8
  | .word => 2 ^ 16
  | .long => 2 ^ 32

/-- The name of a width. -/
def name : Width → String
  | .byte => "u8"
  | .word => "u16"
  | .long => "u32"

end Width

/-- What is said about the digits of a byte string. -/
def Hex.Fault.message : Hex.Fault → String
  | .oddLength => "Odd number of digits"
  | .badDigit found position =>
    s!"Invalid character {Text.quoteChar (Char.ofNat found.toNat)} at position {position}"

/-- Why an argument is refused. -/
inductive BadParameter where
  /-- A device table slot beyond the last. -/
  | slotOutOfRange (slot : UInt8)
  /-- A sensor image too large for the sequence numbers of its blocks. -/
  | sensorImageTooLong (length limit : Nat)
  | routerImageEmpty
  | routerImageTooLong (length : Nat)
  /-- The timeout of a command table entry is no span of time. -/
  | entryTimeout (command : String) (seconds : Binary64)
  /-- The data of a command table entry is no byte string. -/
  | entryData (command : String) (fault : Hex.Fault)
  /-- A set of illuminance parameters breaks these rules. -/
  | outOfRange (problems : List Illuminance.Problem)
  /-- Settings updates that are no JSON object. -/
  | updatesNotObject
  | readOnlyField (name : String)
  | unknownField (name : String)
  /-- A settings update whose value does not fit its field. -/
  | fieldValue (found : Json) (width : Width)
  /-- A command that takes no settings updates. -/
  | settingsUnsupported (command : String)
  deriving Repr

/-- What a JSON value is called where an integer was wanted. -/
def Json.describeMismatch : Json → String
  | .null => "invalid type: null"
  | .bool true => "invalid type: boolean `true`"
  | .bool false => "invalid type: boolean `false`"
  | .number (.natural n) => s!"invalid value: integer `{n}`"
  | .number (.negative n) => s!"invalid value: integer `-{n}`"
  | .number (.real x) => s!"invalid type: floating point `{Decimal.text Decimal.pointed x}`"
  | .string s => s!"invalid type: string {Text.quote s}"
  | .array _ => "invalid type: sequence"
  | .object _ => "invalid type: map"

/-- What is said about a refused argument. -/
def BadParameter.message : BadParameter → String
  | .slotOutOfRange slot => s!"device index {slot.toNat} out of range (0-99)"
  | .sensorImageTooLong length limit =>
    s!"firmware of {length} bytes exceeds the {limit}-byte sensor DFU limit"
  | .routerImageEmpty => "router firmware image is empty"
  | .routerImageTooLong length => s!"router firmware of {length} bytes exceeds 4 GiB"
  | .entryTimeout command seconds =>
    s!"command '{command}': invalid timeout {Decimal.text Decimal.plain seconds}"
  | .entryData command fault => s!"command '{command}': bad data hex: {fault.message}"
  | .outOfRange problems => "; ".intercalate (problems.map (·.message))
  | .updatesNotObject => "parameter updates must be a JSON object"
  | .readOnlyField name => s!"{name} is read-only"
  | .unknownField name => s!"unknown parameter '{name}'"
  | .fieldValue found width =>
    s!"bad parameter value: {found.describeMismatch}, expected {width.name}"
  | .settingsUnsupported command => s!"'{command}' does not accept settings updates"

end SensorLink
