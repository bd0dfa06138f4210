import SensorLink.CommandLine.Grammar

/-!
# The synopsis of a grammar

What a command line may look like, in a few lines: the options of the program, and below each
command its own.
-/

namespace SensorLink.CommandLine

/-- An option as it is written. -/
def OptionRule.synopsis (rule : OptionRule) : String :=
  let short := rule.letter.elim "" fun c => "-" ++ c.toString ++ ", "
  let value := match rule.role with
    | .value _ => " <" ++ rule.name ++ ">"
    | _ => ""
  short ++ "--" ++ rule.name ++ value ++ (if rule.isRequired then " (required)" else "")

mutual
/-- The lines about a level: its options, and then its commands with what is below them. -/
def Grammar.synopsisFrom (margin : String) : Grammar → String
  | ⟨options, _, _, commands, _⟩ =>
    String.join (options.map fun rule => margin ++ rule.synopsis ++ "\n")
      ++ commandsSynopsis margin commands

/-- The lines about some commands. -/
def commandsSynopsis (margin : String) : List (String × Grammar) → String
  | [] => ""
  | (name, below) :: rest =>
    margin ++ name ++ "\n" ++ Grammar.synopsisFrom (margin ++ "    ") below
      ++ commandsSynopsis margin rest
end

/-- The options and commands of a program. -/
def Grammar.synopsis (g : Grammar) : String := g.synopsisFrom "  "

end SensorLink.CommandLine
