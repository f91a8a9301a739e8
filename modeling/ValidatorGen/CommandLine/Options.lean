/-
Options of a command. An option is named by a word, and its value is joined to that word or
is the word after it. A value that is a word of its own is read only when the next option
or the end is reached, so a word that no option has is refused before it.
-/
import ValidatorGen.CommandLine.Word
import ValidatorGen.Settings.Reader

namespace ValidatorGen.CommandLine

/-- Why a command line does not hold a command to run. -/
inductive UsageFault
  | unknownArgument (word : String)
  | unknownCommand (word : String)
  | noCommand
  | badValue (option : String) (fault : ValueFault)
  | unwantedValue (option : String)
  | repeated (option : String)
  | conflict (option other : String)
  | required (option : String)
  /-- It asks for help, with everything or with one command. -/
  | helpAsked (command : Option String)
  | versionAsked
  deriving DecidableEq, Repr

/-- An option: its name, what its value says, and whether it may be given again. -/
structure OptionRule (α : Type) where
  name : String
  read : Reader α
  repeatable : Bool := false

/-- What the options given so far say, each with the name of its option. -/
abbrev Given (α : Type) := List (String × α)

/-- Adds an option with its value, if there is one. -/
def OptionRule.take (rule : OptionRule α) (value : Option String) (given : Given α) :
    Except UsageFault (Given α) :=
  match value with
  | none => .error (.badValue rule.name .absent)
  | some text =>
    if !rule.repeatable && given.any (·.1 == rule.name) then .error (.repeated rule.name)
    else
      match rule.read text with
      | .error fault => .error (.badValue rule.name fault)
      | .ok a => .ok (given ++ [(rule.name, a)])

/-- How far the words have been read. -/
structure Progress (α : Type) where
  given : Given α := []
  /-- The option named last, and the word that is its value, while it is to be read. -/
  waiting : Option (OptionRule α × Option String) := none

/-- Reads the option that waits, if there is one. -/
def Progress.settle (p : Progress α) : Except UsageFault (Given α) :=
  match p.waiting with
  | none => .ok p.given
  | some (rule, value) => rule.take value p.given

/-- Goes on by one word, which is no separator. -/
def Progress.step (command : String) (rules : List (OptionRule α)) (p : Progress α)
    (text : String) : Except UsageFault (Progress α) :=
  match Word.ofText text with
  | .option "help" none | .letters 'h' _ =>
    match p.settle with
    | .error fault => .error fault
    | .ok _ => .error (.helpAsked (some command))
  | .option "help" (some _) => .error (.unwantedValue "help")
  | .option name value =>
    match rules.find? (·.name == name) with
    | none => .error (.unknownArgument text)
    | some rule =>
      match p.settle, value with
      | .error fault, _ => .error fault
      | .ok given, none => .ok ⟨given, some (rule, none)⟩
      | .ok given, some v => (rule.take (some v) given).map fun given => ⟨given, none⟩
  | .plain value =>
    match p.waiting with
    | some (rule, none) => .ok ⟨p.given, some (rule, some value)⟩
    | _ => .error (.unknownArgument text)
  | _ => .error (.unknownArgument text)

/-- Reads the words after the name of a command. -/
def readOptions (command : String) (rules : List (OptionRule α)) :
    Progress α → List String → Except UsageFault (Given α)
  | p, [] => p.settle
  | p, text :: words =>
    match Word.ofText text, words with
    | .separator, [] => p.settle
    | .separator, word :: _ => .error (.unknownArgument word)
    | _, words =>
      match p.step command rules text with
      | .error fault => .error fault
      | .ok p => readOptions command rules p words

end ValidatorGen.CommandLine
