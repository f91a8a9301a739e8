/-
What is wrong with settings, as causes.
-/
import ValidatorGen.Configuration
import ValidatorGen.Files.Fault

namespace ValidatorGen

/-- What is wrong with the value of a variable. -/
inductive ValueFault
  | configuration (fault : ConfigurationFault)
  | notBoolean (given : String)
  /-- There is none where one has to be. -/
  | absent
  deriving DecidableEq, Repr

/-- The fault of a value in words. -/
def ValueFault.message : ValueFault → String
  | .configuration fault => "invalid configuration: " ++ fault.message
  | .notBoolean given => "expected a boolean, got '" ++ given ++ "'"
  | .absent => "a value is required"

/-- Why settings are refused. -/
inductive SettingsFault
  /-- The settings file cannot be read. -/
  | unreadable (path : String) (fault : FileFault)
  /-- The settings file does not hold settings. -/
  | malformed
  /-- A variable has a value that it cannot have. -/
  | badValue (name : String) (fault : ValueFault)
  deriving DecidableEq, Repr

/-- A fault in words; what is wrong inside a settings file is not described. -/
def SettingsFault.message : SettingsFault → Option String
  | .unreadable path fault => some ("failed to read " ++ path ++ ": " ++ fault.message)
  | .malformed => none
  | .badValue name fault => some ("invalid value for " ++ name ++ ": " ++ fault.message)

end ValidatorGen
