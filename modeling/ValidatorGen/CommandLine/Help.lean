/-
What is shown to whoever asks for help, and what is said about a command line that holds no
command.
-/
import ValidatorGen.CommandLine.Command

namespace ValidatorGen.CommandLine

/-- The name of the program. -/
def program : String := "schemaforge"

/-- The version of the program. -/
def version : String := "0.1.0"

/-- What is shown when the version is asked for. -/
def versionText : String := program ++ " " ++ version ++ "\n"

/-- The commands in an overview. -/
def overview : String :=
  "Schema to validator render models\n\nUsage: " ++ program ++ " <COMMAND>\n\nCommands:\n"
    ++ "  generate  Normalize a raw column export and write render models\n"
    ++ "  schema    Print the JSON Schema of the generator configuration\n"
    ++ "  help      Print this message or the help of the given subcommand(s)\n\n"
    ++ "Options:\n  -h, --help     Print help\n  -V, --version  Print version\n"

/-- The options of a command, one a line. -/
def optionLines (names : List String) : String :=
  String.join (names.map fun name => "      --" ++ name ++ "\n")

/-- The help with one command. -/
def helpWith (command : String) (names : List String) : String :=
  "Usage: " ++ program ++ " " ++ command ++ " [OPTIONS]\n\nOptions:\n" ++ optionLines names
    ++ "  -h, --help\n"

/-- What is shown when help is asked for. -/
def helpText : Option String → String
  | some "generate" => helpWith "generate" (generateRules.map (·.name))
  | some "schema" => helpWith "schema" (schemaRules.map (·.name))
  | _ => overview

/-- A fault in words. -/
def UsageFault.message : UsageFault → String
  | .unknownArgument word => "unexpected argument '" ++ word ++ "' found"
  | .unknownCommand word => "unrecognized subcommand '" ++ word ++ "'"
  | .noCommand => "a command is required"
  | .badValue option fault => "invalid value for '--" ++ option ++ "': " ++ fault.message
  | .unwantedValue option => "'--" ++ option ++ "' takes no value"
  | .repeated option => "the argument '--" ++ option ++ "' cannot be used multiple times"
  | .conflict option other =>
    "the argument '--" ++ option ++ "' cannot be used with '--" ++ other ++ "'"
  | .required option => "the argument '--" ++ option ++ "' is required"
  | .helpAsked command => helpText command
  | .versionAsked => versionText

end ValidatorGen.CommandLine
