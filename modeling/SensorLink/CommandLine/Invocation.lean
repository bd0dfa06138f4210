import SensorLink.CommandLine.Level

/-!
# What the program can be asked

The grammar of the program's own command line, and what a command line in it asks for. The port and
the baud rate come first and hold for whatever is done; then comes one of four commands. The
commands of the router have names of their own below `router`: two that take a slot, one that brings
new firmware, and any name of the router's command table.
-/

namespace SensorLink.CommandLine

/-! ## The grammar -/

/-- The options that every level has: how much is logged, and help. -/
def commonOptions : List OptionRule :=
  [{ name := "verbose", letter := some 'v', role := .count },
    { name := "quiet", letter := some 'q', role := .count },
    { name := "help", letter := some 'h', role := .inform }]

/-- A level with the options that every level has. -/
def levelWith (options : List OptionRule) (words : Nat) (exclusive : List (String × String)) :
    Grammar :=
  { options := options ++ commonOptions, words, exclusive := ("verbose", "quiet") :: exclusive }

/-- The number of a slot. -/
def slotOption (isRequired : Bool) : OptionRule :=
  { name := "index", letter := some 'i', role := .value (.signed (2 ^ 8)), isRequired }

/-- A timeout in seconds. -/
def timeoutOption : OptionRule := { name := "timeout", letter := some 't', role := .value .real }

/-- The commands of the router. -/
def routerGrammar : Grammar :=
  { levelWith [] 0 [] with
    commands := [
      ("get-device-id", levelWith [slotOption false] 0 []),
      ("remove-device-id", levelWith [slotOption true] 0 []),
      ("dfu", levelWith
        [{ name := "firmware", letter := some 'f', role := .value .file, isRequired := true },
          timeoutOption] 0 [])]
    takesOthers := true }

/-- A command of a module. Settings are changed one by one or written as a whole, not both. -/
def moduleGrammar : Grammar :=
  levelWith
    [{ name := "device", letter := some 'd', role := .value .text, isRequired := true },
      { name := "data", role := .value .text },
      { name := "settings", role := .value .text },
      { name := "firmware", role := .value .file },
      timeoutOption] 2 [("data", "settings")]

/-- Printing what the router sends, for so many seconds. -/
def monitorGrammar : Grammar :=
  levelWith [{ name := "duration", letter := some 'd', role := .value (.unsigned (2 ^ 64)) }] 0 []

/-- The program. -/
def grammar : Grammar :=
  { levelWith
      [{ name := "port", letter := some 'p', role := .value .text },
        { name := "baud", letter := some 'b', role := .value (.signed (2 ^ 32)) },
        { name := "log-file", letter := some 'l', role := .value .file },
        { name := "version", letter := some 'V', role := .inform }] 0 [] with
    commands := [
      ("router", routerGrammar), ("module", moduleGrammar), ("modules", levelWith [] 0 []),
      ("monitor", monitorGrammar)] }

/-! ## What is asked for -/

/-- What the router is asked. -/
inductive RouterTask where
  | getDevice (slot : UInt8)
  | removeDevice (slot : UInt8)
  | update (file : String) (timeout : Binary64)
  /-- A command of the router's table by its name, which should be one word. -/
  | named (words : List String)

/-- What a module is asked. -/
structure ModuleTask where
  name : String
  command : String
  device : String
  data : Option String
  settings : Option String
  firmware : Option String
  timeout : Option Binary64

/-- What the program is asked to do. -/
inductive Job where
  | ofRouter (task : RouterTask)
  | ofModule (task : ModuleTask)
  | modules
  /-- To print what the router sends, for so many seconds or until it is stopped. -/
  | monitor (seconds : Option Nat)

/-- A command line that has been understood. -/
structure Invocation where
  port : String
  baud : UInt32
  job : Job

/-- The rate at which a router runs unless it was told otherwise. -/
def defaultBaud : UInt32 := 38400

/-- The port of the router unless another is named. -/
def defaultPort : String := "/dev/ttyACM0"

/-- The parts of a command of the router. -/
def RouterTask.ofPart? (part : Part) : Option RouterTask :=
  match part.command with
  | "get-device-id" => some (.getDevice (.ofNat ((part.whole? "index").getD 0)))
  | "remove-device-id" => (part.whole? "index").map fun slot => .removeDevice (.ofNat slot)
  | "dfu" =>
    (part.text? "firmware").map fun file =>
      .update file ((part.real? "timeout").getD (.ofDecimal false 10 0))
  | other => some (.named (other :: part.words))

/-- The parts of a command. -/
def Job.ofParts? : List Part → Option Job
  | [part] =>
    match part.command, part.words with
    | "modules", _ => some .modules
    | "monitor", _ => some (.monitor (part.whole? "duration"))
    | "module", [name, command] =>
      (part.text? "device").map fun device => .ofModule
        { name, command, device, data := part.text? "data", settings := part.text? "settings"
          firmware := part.text? "firmware", timeout := part.real? "timeout" }
    | _, _ => none
  | [_, part] => (RouterTask.ofPart? part).map .ofRouter
  | _ => none

/-- The parts of a command line. -/
def Invocation.ofParts? : List Part → Option Invocation
  | [] => none
  | top :: below =>
    (Job.ofParts? below).map fun job =>
      { port := (top.text? "port").getD defaultPort
        baud := ((top.whole? "baud").map UInt32.ofNat).getD defaultBaud, job }

/-- Reads a command line. -/
def Invocation.parse (arguments : List String) : Except Stop Invocation := do
  let parts ← grammar.read arguments
  match Invocation.ofParts? parts with
  | some invocation => .ok invocation
  | none => .error .misuse

end SensorLink.CommandLine
