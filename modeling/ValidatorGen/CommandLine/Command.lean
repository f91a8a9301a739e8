/-
The commands of the program and their options.
-/
import ValidatorGen.CommandLine.Options
import ValidatorGen.Settings.Overrides

namespace ValidatorGen.CommandLine

/-! ## Generating -/

/-- What one option of the command that generates says. -/
inductive Argument
  /-- The file that holds the rows. -/
  | input (path : String)
  /-- The settings file. -/
  | settings (path : String)
  /-- The directory of run folders. -/
  | runDir (path : String)
  /-- A second file for the output. -/
  | out (path : String)
  | set (s : Setting)
  /-- One more table that is taken. -/
  | includedTable (name : String)
  /-- One more table that is left out. -/
  | excludedTable (name : String)
  deriving DecidableEq, Repr

/-- A path, which has to say something. -/
def path (wrap : String → α) : Reader α :=
  fun value => if value.isEmpty then .error .absent else .ok (wrap value)

/-- A truth value, spelled out. -/
def readExactly : Reader Bool
  | "true" => .ok true
  | "false" => .ok false
  | other => .error (.notBoolean other)

/-- The options of the command that generates. -/
def generateRules : List (OptionRule Argument) := [
  ⟨"input", path .input, false⟩,
  ⟨"config", path .settings, false⟩,
  ⟨"run-dir", path .runDir, false⟩,
  ⟨"out", path .out, false⟩,
  ⟨"schema", .text fun v => .set (.schemaName v), false⟩,
  ⟨"include", .text fun v => .set (.included (.pattern v)), false⟩,
  ⟨"include-table", .text .includedTable, true⟩,
  ⟨"exclude", .text fun v => .set (.excluded (.pattern v)), false⟩,
  ⟨"exclude-table", .text .excludedTable, true⟩,
  ⟨"dialect", .choice Dialect.parse fun v => .set (.dialect v), false⟩,
  ⟨"field-casing", .choice Casing.parse fun v => .set (.fieldCasing v), false⟩,
  ⟨"object-casing", .choice Casing.parse fun v => .set (.objectCasing v), false⟩,
  ⟨"case-transform", .truth readExactly fun v => .set (.caseTransform v), false⟩,
  ⟨"singularize", .truth readExactly fun v => .set (.singularize v), false⟩,
  ⟨"coerce-dates-on-read", .truth readExactly fun v => .set (.coerceDatesOnRead v), false⟩,
  ⟨"stringify-dates", .truth readExactly fun v => .set (.stringifyDatesOnWrite v), false⟩,
  ⟨"stringify-json", .truth readExactly fun v => .set (.stringifyJsonOnWrite v), false⟩,
  ⟨"default-empty-array", .truth readExactly fun v => .set (.emptyArrayDefault v), false⟩,
  ⟨"default-undefined", .truth readExactly fun v => .set (.undefinedDefault v), false⟩,
  ⟨"unknown-type-fallback", .choice TypeFallback.parse fun v => .set (.typeFallback v), false⟩,
  ⟨"json-schema-import", .text fun v => .set (.jsonImport v), false⟩]

/-- Options that do not go together. -/
def conflicts : List (String × String) :=
  [("include", "include-table"), ("exclude", "exclude-table")]

/-- The command that generates. -/
structure GenerateCommand where
  input : String
  settings : Option String := none
  runDir : String := "runs"
  out : Option String := none
  overrides : Overrides := {}
  deriving DecidableEq, Repr

namespace Argument

/-- The input, if the argument names it. -/
def input? : Argument → Option String
  | .input path => some path
  | _ => none

/-- The settings file, if the argument names it. -/
def settings? : Argument → Option String
  | .settings path => some path
  | _ => none

/-- The directory of run folders, if the argument names it. -/
def runDir? : Argument → Option String
  | .runDir path => some path
  | _ => none

/-- The second file, if the argument names it. -/
def out? : Argument → Option String
  | .out path => some path
  | _ => none

/-- The setting that the argument is, if it is one on its own. -/
def setting? : Argument → Option Setting
  | .set s => some s
  | _ => none

/-- The table that the argument takes. -/
def includedTable? : Argument → Option String
  | .includedTable name => some name
  | _ => none

/-- The table that the argument leaves out. -/
def excludedTable? : Argument → Option String
  | .excludedTable name => some name
  | _ => none

/-- The filter of some names, if there are any. -/
def namesFilter : List String → Option TableFilter
  | [] => none
  | names => some (.names names)

/-- The layer of settings that arguments make up. -/
def overrides (list : List Argument) : Overrides :=
  let alone := Overrides.ofSettings (list.filterMap setting?)
  { alone with
    included := alone.included.or (namesFilter (list.filterMap includedTable?))
    excluded := alone.excluded.or (namesFilter (list.filterMap excludedTable?)) }

end Argument

/-- Whether an option was given. -/
def Given.has (given : Given α) (name : String) : Bool := given.any (·.1 == name)

/-- The command of the options given. -/
def GenerateCommand.ofGiven (given : Given Argument) : Except UsageFault GenerateCommand :=
  match conflicts.find? fun (a, b) => given.has a && given.has b with
  | some (a, b) => .error (.conflict a b)
  | none =>
    let arguments := given.map (·.2)
    match arguments.findSome? Argument.input? with
    | none => .error (.required "input")
    | some input => .ok {
        input := input
        settings := arguments.findSome? Argument.settings?
        runDir := (arguments.findSome? Argument.runDir?).getD "runs"
        out := arguments.findSome? Argument.out?
        overrides := Argument.overrides arguments }

/-! ## All commands -/

/-- The options of the command that describes settings. -/
def schemaRules : List (OptionRule String) := [⟨"out", path id, false⟩]

/-- A command of the program. -/
inductive Command
  | generate (c : GenerateCommand)
  /-- Describes settings, into a file if one is named. -/
  | schema (out : Option String)
  deriving DecidableEq, Repr

namespace Command

/-- The names of commands. -/
def names : List String := ["generate", "schema", "help"]

/-- What the words after "help" ask for: commands have no commands of their own. -/
def helpFault : List String → UsageFault
  | [] => .helpAsked none
  | [name] => if names.contains name then .helpAsked (some name) else .unknownCommand name
  | name :: more :: _ => .unknownCommand (if names.contains name then more else name)

/-- The command of the words after its name. -/
def ofName (name : String) (words : List String) : Except UsageFault Command :=
  match name with
  | "generate" => do
    let given ← readOptions "generate" generateRules {} words
    (GenerateCommand.ofGiven given).map .generate
  | "schema" => do
    let given ← readOptions "schema" schemaRules {} words
    .ok (.schema ((given.map (·.2)).head?))
  | "help" => .error (helpFault words)
  | other => .error (.unknownCommand other)

/-- The command of a command line, whose first word has to be its name. -/
def parse : List String → Except UsageFault Command
  | [] => .error .noCommand
  | text :: words =>
    match Word.ofText text with
    | .separator =>
      match words with
      | [] => .error .noCommand
      | word :: _ =>
        .error (if names.contains word then .unknownArgument word else .unknownCommand word)
    | .option "help" none | .letters 'h' _ => .error (.helpAsked none)
    | .option "version" none | .letters 'V' _ => .error .versionAsked
    | .option "help" (some _) => .error (.unwantedValue "help")
    | .option "version" (some _) => .error (.unwantedValue "version")
    | .option _ _ | .letters _ _ => .error (.unknownArgument text)
    | .plain name => ofName name words

end Command

end ValidatorGen.CommandLine
