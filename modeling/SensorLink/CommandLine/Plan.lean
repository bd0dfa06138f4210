import SensorLink.CommandLine.Invocation
import SensorLink.CommandTable.Reader
import SensorLink.Dialogue.Command
import SensorLink.Json.Document
import SensorLink.Json.Printer
import SensorLink.Router.Slot

/-!
# What the program does

An invocation becomes a plan: to print something, to watch the link, or to hold a dialogue and print
what came of it. Whatever can be found wrong without the router is found here, and nothing is sent
then. Of several mistakes in one invocation the first in a fixed order is reported: payload,
settings, firmware, timeout, and only then what the command itself makes of them.
-/

namespace SensorLink.CommandLine

/-- The name of a file between quotes. It may have quotes of either kind inside, and both are
escaped. -/
def quoteFile (name : String) : String :=
  let escape (c : Char) := if c = '\'' then ['\\', c] else Text.escapeWithin '"' c
  String.ofList ('"' :: (name.toList.flatMap escape ++ ['"']))

/-- Why the program did not do what it was asked. -/
inductive Failure where
  | badData (fault : Hex.Fault)
  | badSettings
  | unreadable (file : String) (cause : SystemFault)
  | badTimeout (fault : Duration.Fault)
  /-- New firmware is taken at one baud rate only. -/
  | wrongBaud
  /-- The name of a command of the router is one word. -/
  | notOneName (words : List String)
  /-- The link went down while it was watched. -/
  | linkLost
  | failed (cause : Error)

/-- What is said about a failure. -/
def Failure.message : Failure → String
  | .badData fault => s!"--data is not valid hex: {fault.message}"
  | .badSettings => "--settings is not valid JSON"
  | .unreadable file cause => s!"Failed to read firmware {quoteFile file}: {cause.message}"
  | .badTimeout fault => s!"--timeout must be a positive number: {fault.message}"
  | .wrongBaud => s!"router DFU runs at {defaultBaud} baud; pass --baud {defaultBaud}"
  | .notOneName words =>
    "expected exactly one router command name, got ["
      ++ ", ".intercalate (words.map Text.quote) ++ "]"
  | .linkLost => "router link lost"
  | .failed cause => cause.message

/-- What the program does. -/
inductive Plan where
  | print (text : String)
  /-- To print each packet that arrives, for a while or until it is stopped. -/
  | watch (length : Option Duration)
  /-- To hold a dialogue and print its result. -/
  | converse (dialogue : Dialogue String)

/-- The files that there are. -/
abbrev Files := String → Except SystemFault Bytes

/-! ## Parts of an invocation -/

/-- The image in a file. -/
def readFirmware (files : Files) (file : String) : Except Failure Bytes :=
  (files file).mapError (.unreadable file)

/-- A timeout that is given in seconds. -/
def readTimeout (seconds : Binary64) : Except Failure Duration :=
  (Duration.ofSeconds seconds).mapError .badTimeout

/-- Settings that are given as JSON. -/
def readSettings (text : String) : Except Failure Json :=
  match Json.parse? text with
  | some settings => .ok settings
  | none => .error .badSettings

/-- Reads what is there to be read. -/
def optional {α β : Type} (read : α → Except Failure β) : Option α → Except Failure (Option β)
  | none => .ok none
  | some a => (read a).map some

/-- What an invocation sets in place of what the command table says. -/
def ModuleTask.overrides (task : ModuleTask) (files : Files) : Except Failure Overrides := do
  let payload ← optional (fun text => (CommandTable.payloadOfText text).mapError .badData) task.data
  let settings ← optional readSettings task.settings
  let firmware ← optional (readFirmware files) task.firmware
  let timeout ← optional readTimeout task.timeout
  .ok { payload, settings, firmware, timeout }

/-! ## Dialogues of an invocation -/

/-- A value as it is printed. -/
def printed (value : Json) : String := value.indented ++ "\n"

/-- A command, and its outcome as it is printed. -/
def commandDialogue (registry : ModuleRegistry) (name command device : String)
    (overrides : Overrides) : Dialogue String := do
  let outcome ← Dialogue.command name (registry.resolve name).1 command device overrides
  pure (printed outcome.report)

/-- How long the router is waited for. -/
def routerTimeout : Duration := .seconds 10

/-- What the router answered, with the members sorted by name. -/
def answerReport (response : JigInfoResponse) : Json :=
  Json.normal (.object [
    ("command", .string (RouterCommand.ofCode response.command).name),
    ("response", response.report),
    ("reply", .ofOption (·.report) (RouterReply.parse response).toOption)])

/-- A question to the router, and its answer as it is printed. -/
def slotDialogue (code : Except Error UInt8) : Except Failure (Dialogue String) := do
  let code ← code.mapError .failed
  .ok do
    let response ← Dialogue.askRouter code routerTimeout
    pure (printed (answerReport response))

/-- New firmware for the router. -/
def updateDialogue (files : Files) (baud : UInt32) (file : String) (seconds : Binary64) :
    Except Failure (Dialogue String) := do
  if baud ≠ defaultBaud then .error .wrongBaud
  let bytes ← readFirmware files file
  let image ← (RouterImage.ofBytes bytes).mapError .failed
  let timeout ← readTimeout seconds
  .ok do
    let outcome ← Dialogue.updateRouter image timeout
    pure (printed outcome.report)

/-- The name of a command in the router's table: what stands as a dash on the command line is an
underscore there. -/
def tableName (word : String) : String := word.map fun c => if c = '-' then '_' else c

/-- The dialogue of a task for the router. -/
def RouterTask.dialogue (files : Files) (registry : ModuleRegistry) (baud : UInt32) :
    RouterTask → Except Failure (Dialogue String)
  | .getDevice slot => slotDialogue (RouterCommand.getDeviceCode slot)
  | .removeDevice slot => slotDialogue (RouterCommand.removeDeviceCode slot)
  | .update file seconds => updateDialogue files baud file seconds
  | .named [word] => .ok (commandDialogue registry "router" (tableName word) "" {})
  | .named words => .error (.notOneName words)

/-- The dialogue of a task for a module. -/
def ModuleTask.dialogue (files : Files) (registry : ModuleRegistry) (task : ModuleTask) :
    Except Failure (Dialogue String) :=
  (task.overrides files).map (commandDialogue registry task.name task.command task.device)

/-! ## The modules -/

/-- A name with as many blanks after it as fill its column. -/
def inColumn (name : String) : String := String.ofList (name.toList.rightpad 28 ' ')

/-- A line about a command. -/
def entryLine (name : String) (entry : CommandEntry) : String :=
  "  " ++ inColumn name ++ " cmd 0x" ++ Hex.byte entry.command ++ "  "
    ++ entry.description.getD "" ++ "\n"

/-- The lines about a module: itself and its commands. -/
def moduleLines (name : String) (table : CommandTable) : String :=
  let about := table.description.elim "" (": " ++ ·)
  name ++ " (sensor 0x" ++ Hex.word table.sensor ++ ")" ++ about ++ "\n"
    ++ String.join (table.entries.map fun (command, entry) => entryLine command entry)

/-- The lines about all modules. -/
def listing (registry : ModuleRegistry) : String :=
  String.join (registry.names.map fun name => moduleLines name (registry.resolve name).1.table)

/-- What the program does when it is invoked so. -/
def Invocation.plan (files : Files) (registry : ModuleRegistry) (invocation : Invocation) :
    Except Failure Plan :=
  match invocation.job with
  | .modules => .ok (.print (listing registry))
  | .monitor seconds => .ok (.watch (seconds.map .seconds))
  | .ofRouter task => (task.dialogue files registry invocation.baud).map .converse
  | .ofModule task => (task.dialogue files registry).map .converse

end SensorLink.CommandLine
