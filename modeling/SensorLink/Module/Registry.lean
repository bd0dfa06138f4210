import SensorLink.CommandTable.Builtin

/-!
# The registry of modules

A module name is looked up in three steps. A name with a handler is a specialised module, with the
table of that name or an empty one; a name with a table alone is run generically; any other name is
unknown and has no commands. A lookup never fails.

What a name was found to be when it was first asked for is what it stays: later registrations do not
change the meaning of commands that are already in use.
-/

namespace SensorLink

/-- What a module name stands for. -/
inductive ModuleBinding where
  | specialised (handler : ModuleHandler) (table : CommandTable)
  | generic (table : CommandTable)
  | unknown (table : CommandTable)

namespace ModuleBinding

/-- The commands of a module. -/
def table : ModuleBinding → CommandTable
  | .specialised _ table => table
  | .generic table => table
  | .unknown table => table

/-- The handler of a module. -/
def handler? : ModuleBinding → Option ModuleHandler
  | .specialised handler _ => some handler
  | _ => none

/-- Whether a module is run without a handler. -/
def isGeneric (binding : ModuleBinding) : Bool := binding.handler?.isNone

/-- A binding in words. -/
def describe : ModuleBinding → String
  | .specialised handler table =>
    "Specialized \x7b handler: " ++ Text.quote handler.name ++ ", config: " ++ Text.quote table.name
      ++ " \x7d"
  | .generic table => "Generic(" ++ Text.quote table.name ++ ")"
  | .unknown table => "Unknown(" ++ Text.quote table.name ++ ")"

end ModuleBinding

/-- A module as it was found: the name that was asked for, and what the name stands for. -/
structure ResolvedModule where
  name : String
  binding : ModuleBinding

/-- Handlers and tables by module name, and the modules that have been looked up. -/
structure ModuleRegistry where
  handlers : List (String × ModuleHandler) := []
  tables : List (String × CommandTable) := []
  resolved : List (String × ResolvedModule) := []

namespace ModuleRegistry

/-- Gives a name a handler, in place of any that it had. -/
def registerHandler (r : ModuleRegistry) (name : String) (handler : ModuleHandler) :
    ModuleRegistry :=
  { r with handlers := Json.insertMember name handler r.handlers }

/-- Registers a table under its own name, in place of any that was there. -/
def registerTable (r : ModuleRegistry) (table : CommandTable) : ModuleRegistry :=
  { r with tables := Json.insertMember table.name table r.tables }

/-- A registry with the illuminance sensor and the router. -/
def builtin : ModuleRegistry :=
  (((({} : ModuleRegistry).registerTable Illuminance.table).registerHandler "illuminance"
    Illuminance.handler).registerTable RouterCommand.table)

/-- The names that have a handler or a table, sorted, each once. -/
def names (r : ModuleRegistry) : List String :=
  (Json.sortMembers ((r.handlers.map fun (name, _) => (name, ())) ++
    r.tables.map fun (name, _) => (name, ()))).map (·.1)

/-- What a name stands for by the registrations made so far. -/
def lookUp (r : ModuleRegistry) (name : String) : ModuleBinding :=
  match Json.member? name r.handlers, Json.member? name r.tables with
  -- A handler counts with or without a table of its name.
  | some handler, table => .specialised handler (table.getD (.empty name))
  | none, some table => .generic table
  | none, none => .unknown (.empty name)

/-- The module of a name, and the registry that keeps it. -/
def find (r : ModuleRegistry) (name : String) : ResolvedModule × ModuleRegistry :=
  match Json.member? name r.resolved with
  | some found => (found, r)
  | none =>
    let found : ResolvedModule := { name, binding := r.lookUp name }
    (found, { r with resolved := (name, found) :: r.resolved })

/-- What a name stands for, and the registry that keeps it so. -/
def resolve (r : ModuleRegistry) (name : String) : ModuleBinding × ModuleRegistry :=
  let (found, r) := r.find name
  (found.binding, r)

end ModuleRegistry
end SensorLink
