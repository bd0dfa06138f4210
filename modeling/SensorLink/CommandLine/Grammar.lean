import SensorLink.CommandLine.Value

/-!
# Grammars of command lines

A command line has levels: the program itself, a command of it, a command of that. Each level has
options of its own and either takes words or has commands below it. A level may also take commands
that it does not know: then whatever follows is left to whoever knows them.

A grammar is data, so that one reader serves every level.
-/

namespace SensorLink.CommandLine

/-- What an option is there for. -/
inductive OptionRole where
  /-- It asks for a text about the program; nothing else is done then. -/
  | inform
  /-- It may stand any number of times and has no value. -/
  | count
  /-- It has one value and stands at most once. -/
  | value (kind : ValueKind)
  deriving DecidableEq, Repr

/-- An option: `--name`, and in short `-letter`. -/
structure OptionRule where
  name : String
  letter : Option Char := none
  role : OptionRole
  isRequired : Bool := false
  deriving DecidableEq, Repr

/-- One level of a command line, and the levels below it. -/
structure Grammar where
  options : List OptionRule
  /-- How many words the level takes. It needs them all. -/
  words : Nat := 0
  /-- Options that do not go together. -/
  exclusive : List (String × String) := []
  /-- The commands that the level knows. It needs one, if there are any. -/
  commands : List (String × Grammar) := []
  /-- Whether the level takes commands that it does not know. -/
  takesOthers : Bool := false

namespace Grammar

/-- The command of a name. -/
def command? (g : Grammar) (name : String) : Option Grammar := g.commands.lookup name

/-- The option of a name. -/
def option? (g : Grammar) (name : String) : Option OptionRule := g.options.find? (·.name = name)

/-- The option of a letter. -/
def letter? (g : Grammar) (c : Char) : Option OptionRule := g.options.find? (·.letter = some c)

/-- Whether the level has commands. Such a level has the command `help` too. -/
def hasCommands (g : Grammar) : Bool := !g.commands.isEmpty || g.takesOthers

end Grammar

/-- Why a command line is not carried out. -/
inductive Stop where
  /-- It asks for a text about the program. -/
  | information
  /-- It is not in the grammar. -/
  | misuse
  deriving DecidableEq, Repr

/-- The status that the program ends with. -/
def Stop.exitCode : Stop → UInt32
  | .information => 0
  | .misuse => 2

/-- What a command line has at one level. -/
structure Part where
  /-- The word that leads to the level, nothing for the program itself. -/
  command : String := ""
  values : List (String × Value) := []
  /-- The options without value, each as many times as it stands. -/
  flags : List String := []
  words : List String := []

namespace Part

/-- Whether an option stands at the level. -/
def has (part : Part) (name : String) : Bool :=
  part.flags.contains name || (part.values.lookup name).isSome

/-- The text of an option. -/
def text? (part : Part) (name : String) : Option String :=
  match part.values.lookup name with
  | some (.text text) => some text
  | _ => none

/-- The whole number of an option. -/
def whole? (part : Part) (name : String) : Option Nat :=
  match part.values.lookup name with
  | some (.whole n) => some n
  | _ => none

/-- The real number of an option. -/
def real? (part : Part) (name : String) : Option Binary64 :=
  match part.values.lookup name with
  | some (.real x) => some x
  | _ => none

end Part
end SensorLink.CommandLine
