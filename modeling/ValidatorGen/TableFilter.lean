/-
Filters on table names: a pattern that must match somewhere in the name, or a list of the
names themselves. A filter is made ready once, which is where a pattern that is none is
refused.
-/
import ValidatorGen.Configuration
import ValidatorGen.Pattern.Engine

namespace ValidatorGen

/-- A filter as it is configured. -/
inductive TableFilter
  | pattern (text : String)
  | names (list : List String)
  deriving DecidableEq, Repr

/-- A filter that is ready to be asked. -/
inductive TableFilter.Ready
  | pattern (isMatch : String → Bool)
  | names (list : List String)

namespace TableFilter

/-- Makes a filter ready. `role` says what the filter is for. -/
def compile [PatternEngine] (role : String) : TableFilter → Except ConfigurationFault Ready
  | .pattern text =>
    match PatternEngine.read? text with
    | some isMatch => .ok (.pattern isMatch)
    | none => .error (.badPattern role text)
  | .names list => .ok (.names list)

/-- Whether a filter takes in a table of the given name. -/
def Ready.accepts (table : String) : Ready → Bool
  | .pattern isMatch => isMatch table
  | .names list => list.contains table

/-- Makes a filter ready, if there is one. -/
def compileOption [PatternEngine] (role : String) :
    Option TableFilter → Except ConfigurationFault (Option Ready)
  | none => .ok none
  | some f => (f.compile role).map some

end TableFilter

end ValidatorGen
