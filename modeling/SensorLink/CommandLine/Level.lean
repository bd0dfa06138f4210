import SensorLink.CommandLine.Grammar

/-!
# Reading a command line

A command line is read from left to right, level by level. An argument that begins with a dash is an
option, or several options in short; any other is the value of the option before it, if that waits
for one, or the name of a command, or a word. After `--` all arguments are words.

A value that follows its option as an argument of its own is looked at only when the next thing at
its level has been found, and a command below is read to its end before that. So a command line that
ends in asking for help gets it, though there is a wrong value before the command. A value in one
argument with its option is looked at once.
-/

namespace SensorLink.CommandLine

/-- An option that has been read but not yet looked at. -/
structure Pending where
  name : String
  kind : ValueKind
  /-- Its value; without one the option waits for it. -/
  text : Option String

/-- A level that is being read. -/
structure Level where
  grammar : Grammar
  part : Part := {}
  pending : Option Pending := none
  /-- Whether all arguments are words from here on. -/
  literal : Bool := false

/-! ## Arguments -/

/-- What an argument looks like. -/
inductive Argument where
  | literally
  | long (name : String) (attached : Option String)
  | letters (cs : List Char)
  | word
  deriving DecidableEq, Repr

/-- A name and what follows it after an equals sign. -/
def splitAttached (cs : List Char) : String × Option String :=
  let name := String.ofList (cs.takeWhile (· ≠ '='))
  match cs.dropWhile (· ≠ '=') with
  | [] => (name, none)
  | _ :: rest => (name, some (String.ofList rest))

/-- What an argument looks like. A dash alone is a word. -/
def Argument.ofText (text : String) : Argument :=
  match text.toList with
  | ['-', '-'] => .literally
  | '-' :: '-' :: cs =>
    let (name, attached) := splitAttached cs
    .long name attached
  | '-' :: c :: cs => .letters (c :: cs)
  | _ => .word

/-- What follows the letter of an option in one argument with it. -/
def attachedTo : List Char → Option String
  | [] => none
  | '=' :: cs => some (String.ofList cs)
  | cs => some (String.ofList cs)

/-- What asking for help on commands comes to: each must be a command of the one before it. -/
def Grammar.help (g : Grammar) : List String → Stop
  | [] => .information
  | name :: rest =>
    match g.command? name with
    | some below => below.help rest
    | none => if g.hasCommands && name = "help" && rest.isEmpty then .information else .misuse

namespace Level

/-- Whether an option waits for its value. -/
def isAwaiting (level : Level) : Bool := level.pending.any (·.text.isNone)

/-- Looks at the option that was read last. -/
def settle (level : Level) : Except Stop Level :=
  match level.pending with
  | none => .ok level
  | some ⟨_, _, none⟩ => .error .misuse
  | some ⟨name, kind, some text⟩ =>
    match kind.read? text with
    | none => .error .misuse
    | some value =>
      if level.part.has name then .error .misuse
      else
        let part := { level.part with values := level.part.values ++ [(name, value)] }
        .ok { level with part, pending := none }

/-- Takes an option, maybe with a value in one argument with it. -/
def takeOption (level : Level) (rule : OptionRule) (attached : Option String) : Except Stop Level :=
  match rule.role, attached with
  -- The option before it is looked at first, so what is wrong with that one goes before the help.
  | .inform, none => level.settle >>= fun _ => .error .information
  | .count, none => do
    let level ← level.settle
    .ok { level with part := { level.part with flags := rule.name :: level.part.flags } }
  | .value kind, none => do
    let level ← level.settle
    .ok { level with pending := some ⟨rule.name, kind, none⟩ }
  | .value kind, some text => do
    let level ← level.settle
    settle { level with pending := some ⟨rule.name, kind, some text⟩ }
  | _, some _ => .error .misuse

/-- Takes the letters of options. The first that has a value has the rest of them for it. -/
def takeLetters (level : Level) : List Char → Except Stop Level
  | [] => .ok level
  | c :: cs =>
    match level.grammar.letter? c with
    | none => .error .misuse
    | some rule =>
      match rule.role with
      | .value _ => level.takeOption rule (attachedTo cs)
      | _ => do
        let level ← level.takeOption rule none
        takeLetters level cs

/-- Takes a word, if there is a place for it. -/
def takeWord (level : Level) (word : String) : Except Stop Level := do
  let level ← level.settle
  if level.part.words.length < level.grammar.words then
    .ok { level with part := { level.part with words := level.part.words ++ [word] } }
  else .error .misuse

/-- Takes an argument that is not the name of a command. -/
def take (level : Level) (argument : String) : Except Stop Level :=
  if level.literal then level.takeWord argument
  else
    match Argument.ofText argument with
    | .literally => .ok { level with literal := true }
    | .long name attached =>
      match level.grammar.option? name with
      | none => .error .misuse
      | some rule => level.takeOption rule attached
    | .letters cs => level.takeLetters cs
    | .word =>
      match level.pending with
      | some ⟨name, kind, none⟩ => .ok { level with pending := some ⟨name, kind, some argument⟩ }
      | _ => level.takeWord argument

/-! ## Commands -/

/-- What an argument is to a level. -/
inductive Place where
  | argument
  /-- The name of a command. -/
  | command (below : Grammar)
  /-- The command that asks for help on others. -/
  | help
  /-- A command that the level does not know. -/
  | other

/-- Whether an argument is a word that no option waits for. -/
def isFreeWord (level : Level) (argument : String) : Bool :=
  level.literal || (!level.isAwaiting && Argument.ofText argument = .word)

/-- What an argument is to a level. After `--` no command is known, and the name of one is not taken
for another. -/
def place (level : Level) (argument : String) : Place :=
  if !level.isFreeWord argument then .argument
  else
    match level.grammar.command? argument with
    | some below => if level.literal then .argument else .command below
    | none =>
      if !level.literal && level.grammar.hasCommands && argument = "help" then .help
      else if level.grammar.takesOthers then .other
      else .argument

/-- Whether a part has all that its level needs, and nothing that does not go together. -/
def isComplete (g : Grammar) (part : Part) : Bool :=
  part.words.length = g.words
    && g.options.all (fun rule => !rule.isRequired || part.has rule.name)
    && g.exclusive.all fun (a, b) => !(part.has a && part.has b)

/-- Ends a level. -/
def finish (level : Level) : Except Stop Part := do
  let level ← level.settle
  if isComplete level.grammar level.part then .ok level.part else .error .misuse

/-- Reads the arguments of a level and of those below it; gives the parts of the levels from the top
down. -/
def read (level : Level) : List String → Except Stop (List Part)
  | [] => do
    let part ← level.finish
    if level.grammar.hasCommands then .error .misuse else .ok [part]
  | argument :: rest =>
    match level.place argument with
    | .argument => do
      let level ← level.take argument
      level.read rest
    | .command below => do
      -- What is wrong with the levels below is found before this one is ended.
      let parts ← read { grammar := below, part := { command := argument } } rest
      let part ← level.finish
      .ok (part :: parts)
    | .help => .error (level.grammar.help rest)
    | .other => do
      let part ← level.finish
      .ok [part, { command := argument, words := rest }]

end Level

/-- Reads a command line: its parts from the top down. -/
def Grammar.read (g : Grammar) (arguments : List String) : Except Stop (List Part) :=
  Level.read { grammar := g } arguments

end SensorLink.CommandLine
