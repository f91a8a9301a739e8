/-
The program: its commands as scripts over files, and what they leave to whoever called it.

Generating reads settings before anything is made; then it makes the run folder, and the
output is written only when all of it is there. The patterns of filters are those of the engine at
hand.
-/
import ValidatorGen.CommandLine.Help
import ValidatorGen.Generate
import ValidatorGen.Pattern.Reading
import ValidatorGen.RunFolder.Basic
import ValidatorGen.Settings.Resolve
import ValidatorGen.Stored.ConfigurationSchema

namespace ValidatorGen

open CommandLine

/-- Why the program does not do what it could. -/
inductive Failure
  | usage (fault : UsageFault)
  | settings (fault : SettingsFault)
  | run (error : Error)
  | files (fault : FileFault)

/-- A script of the program. -/
abbrev Task (α : Type) := Script Failure α

namespace Task

/-- Makes directories, which has to succeed. -/
def makeDirs (path : Path) : Task Unit := Script.makeDirs path (Script.need .files)

/-- Writes a file, which has to succeed. -/
def write (path : Path) (text : String) : Task Unit := Script.write path text (Script.need .files)

/-- Writes at the end of a file, which has to succeed. -/
def append (path : Path) (text : String) : Task Unit := Script.append path text (Script.need .files)

/-- Adds an entry to a log; whether that succeeds does not matter. -/
def log (folder : RunFolder) (entry : Entry) : Task Unit :=
  .clock fun time => .append folder.logPath (entry.line ⟨time⟩) fun _ => pure ()

/-- Adds entries to a log. -/
def logAll (folder : RunFolder) : List Entry → Task Unit
  | [] => pure ()
  | entry :: entries => log folder entry >>= fun _ => logAll folder entries

/-- The text of the settings file, when one is named. -/
def settingsText : Option String → Task (Option SettingsText)
  | none => pure none
  | some path => do
    let content ← Script.readText (.ofText path)
    pure (some ⟨path, content⟩)

/-- Makes a run folder, with the request and a log in it. -/
def openFolder (folder : RunFolder) (input : String) (request : Request) (origin : Origin) :
    Task Unit := do
  makeDirs folder.path
  write folder.configPath (folder.config input request origin).pretty
  append folder.logPath ""

/-- Writes a document to the second file of a run, and makes its directory. -/
def writeCopy (out : Option String) (text : String) : Task Unit :=
  match out with
  | none => pure ()
  | some out => do
    let path := Path.ofText out
    match path.parent? with
    | some directory => makeDirs directory
    | none => pure ()
    write path text

/-- Hands on the output of a run that took so many milliseconds. -/
def handOn (folder : RunFolder) (c : GenerateCommand) (output : Output) (elapsed : Nat) :
    Task Unit := do
  let text := (Output.codec.encode output).pretty
  write folder.outputPath text
  writeCopy c.out text
  log folder (.outputWritten folder.outputPath.text)
  log folder (.finished output.tables.length elapsed)

/-- Runs the generator in a folder that is open. -/
def runIn [PatternEngine] (folder : RunFolder) (c : GenerateCommand) (request : Request) :
    Task Unit := do
  log folder (.started folder.id Source.fileLabel c.input request.config.dialect.label
    folder.path.text)
  let content ← Script.readText (.ofText c.input)
  let source := Source.ofFile c.input content
  match source.rows with
  | .ok rows => log folder (.rowsLoaded c.input rows.length)
  | .error _ => pure ()
  let run := produce source request {}
  logAll folder (run.diagnostics.map .reported)
  match run.result with
  | .error error => do
    log folder (.failed error)
    Script.fail (.run error)
  | .ok output => do
    let time ← Script.now
    let elapsed := time - folder.started.milliseconds
    log folder (.reported (finished request output elapsed))
    handOn folder c output elapsed

/-- The command that generates. -/
def generate [PatternEngine] (c : GenerateCommand) (environment : List (String × String))
    (id : String) (origin : Origin) : Task Unit := do
  let file ← settingsText c.settings
  let request ← Script.ofExcept ((resolve file environment c.overrides).mapError .settings)
  let time ← Script.now
  let folder : RunFolder := ⟨id, ⟨time⟩, .ofText c.runDir⟩
  openFolder folder c.input request origin
  runIn folder c request

/-- The command that describes settings; its value is what is shown. -/
def schema : Option String → Task String
  | none => pure (ConfigurationSchema.value.pretty ++ "\n")
  | some out => do
    write (.ofText out) ConfigurationSchema.value.pretty
    pure ""

/-- The program on a command line; its value is what is shown. -/
def ofArguments [PatternEngine] (arguments : List String) (environment : List (String × String))
    (id : String) (origin : Origin := {}) : Task String :=
  match Command.parse arguments with
  | .error fault => Script.fail (.usage fault)
  | .ok (.generate c) => do
    generate c environment id origin
    pure ""
  | .ok (.schema out) => schema out

end Task

/-- What the program leaves to whoever called it. -/
structure Report where
  exitCode : Nat
  /-- What is shown. -/
  output : String
  /-- What is said about a failure. -/
  complaint : String
  deriving DecidableEq, Repr

namespace Report

/-- What is left after a failure. -/
def ofFailure : Failure → Report
  | .usage (.helpAsked command) => ⟨0, helpText command, ""⟩
  | .usage .versionAsked => ⟨0, versionText, ""⟩
  | .usage fault => ⟨2, "", "error: " ++ fault.message ++ "\n"⟩
  | .settings fault =>
    ⟨1, "", "settings error: " ++ fault.message.getD "malformed settings file" ++ "\n"⟩
  | .run error => ⟨1, "", "core error: " ++ error.message.getD "malformed document" ++ "\n"⟩
  | .files fault => ⟨1, "", "registry error: io error: " ++ fault.message ++ "\n"⟩

/-- What is left after the program has run. -/
def ofResult : Except Failure String → Report
  | .ok text => ⟨0, text, ""⟩
  | .error failure => ofFailure failure

end Report

end ValidatorGen
