/-
Readers of single values, as they are given in a variable or on a command line.
-/
import ValidatorGen.Settings.Fault

namespace ValidatorGen

/-- How a text is read as a setting. -/
abbrev Reader (α : Type) := String → Except ValueFault α

namespace Reader

/-- A choice by label. -/
def choice (parse : String → Except ConfigurationFault β) (wrap : β → α) : Reader α :=
  fun value => ((parse value).mapError .configuration).map wrap

/-- A text as it stands. -/
def text (wrap : String → α) : Reader α := fun value => .ok (wrap value)

/-- A truth value, by the given reading. -/
def truth (parse : Reader Bool) (wrap : Bool → α) : Reader α := fun value => (parse value).map wrap

end Reader

end ValidatorGen
