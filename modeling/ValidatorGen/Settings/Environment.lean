/-
Settings from environment variables. Every option has a variable, whose name starts with a
fixed mark; the filters have two, one for a pattern and one for a list of names between
commas. White space around a value does not count. Variables that no option has are passed
over, and of several settings of one option the last one counts.
-/
import ValidatorGen.Settings.Overrides
import ValidatorGen.Settings.Reader

namespace ValidatorGen.Environment

/-- What the names of variables start with. -/
def mark : String := "SCHEMAFORGE_"

/-- A truth value as a person types it. -/
def readBoolean : Reader Bool := fun value =>
  match typedLabel value with
  | "1" => .ok true
  | "true" => .ok true
  | "yes" => .ok true
  | "on" => .ok true
  | "0" => .ok false
  | "false" => .ok false
  | "no" => .ok false
  | "off" => .ok false
  | other => .error (.notBoolean other)

/-- The names between commas, without white space around them; empty ones do not count. -/
def splitNames (value : String) : List String :=
  (((Text.fields (· == ',') value.toList).map Text.trim).filter (· ≠ [])).map String.ofList

/-- How the variables of all options are read, by name without the mark. -/
def readers : List (String × Reader Setting) := [
  ("DIALECT_VARIANT", .choice Dialect.parse .dialect),
  ("FIELD_NAME_CASING", .choice Casing.parse .fieldCasing),
  ("OBJECT_NAME_CASING", .choice Casing.parse .objectCasing),
  ("CASE_TRANSFORM_ENABLED", .truth readBoolean .caseTransform),
  ("SINGULARIZATION_ENABLED", .truth readBoolean .singularize),
  ("COERCE_DATES_ON_READ", .truth readBoolean .coerceDatesOnRead),
  ("STRINGIFY_DATES_ON_WRITE", .truth readBoolean .stringifyDatesOnWrite),
  ("STRINGIFY_JSON_ON_WRITE", .truth readBoolean .stringifyJsonOnWrite),
  ("DEFAULT_EMPTY_ARRAY_ON_NULLABLE_ARRAY", .truth readBoolean .emptyArrayDefault),
  ("DEFAULT_UNDEFINED_ON_NULLABLE", .truth readBoolean .undefinedDefault),
  ("UNKNOWN_TYPE_FALLBACK", .choice TypeFallback.parse .typeFallback),
  ("JSON_SCHEMA_IMPORT_LOCATION", .text .jsonImport),
  ("SCHEMA_NAME", .text .schemaName),
  ("INCLUDE", .text fun value => .included (.pattern value)),
  ("EXCLUDE", .text fun value => .excluded (.pattern value)),
  ("INCLUDE_TABLES", .text fun value => .included (.names (splitNames value))),
  ("EXCLUDE_TABLES", .text fun value => .excluded (.names (splitNames value)))]

/-- How a variable sets an option, if it does. -/
def reader? (name : String) : Option (Reader Setting) :=
  if mark.toList.isPrefixOf name.toList then
    readers.lookup (String.ofList (name.toList.drop mark.toList.length))
  else none

/-- The setting of one variable, if it is one of an option. -/
def readVariable (name value : String) : Except SettingsFault (Option Setting) :=
  match reader? name with
  | none => .ok none
  | some read =>
    ((read (String.ofList (Text.trim value.toList))).mapError (.badValue name)).map some

/-- The settings of variables, in order; the first one with a bad value is reported. -/
def settings : List (String × String) → Except SettingsFault (List Setting)
  | [] => .ok []
  | (name, value) :: more =>
    match readVariable name value with
    | .error e => .error e
    | .ok none => settings more
    | .ok (some s) => (settings more).map (s :: ·)

/-- The layer of settings that variables make up. -/
def overrides (pairs : List (String × String)) : Except SettingsFault Overrides :=
  (settings pairs).map .ofSettings

/-- The names of the variables of options. -/
def names : List String := readers.map fun (name, _) => mark ++ name

end ValidatorGen.Environment
