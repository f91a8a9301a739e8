/-
The options of a run, the names by which they are given, and what is wrong with a name or
an option that is refused.

Every choice has one label, under which it is stored and shown, and a lenient reader for
what a person types.
-/
import ValidatorGen.Identifier.Casing

namespace ValidatorGen

/-- What is wrong with the options of a run. -/
inductive ConfigurationFault
  | unknownDialect (given : String)
  | unknownCasing (given : String)
  | unknownFallback (given : String)
  | blankSchemaName
  | badPattern (role pattern : String)
  /-- A fault that an extension states in its own words. -/
  | stated (text : String)
  deriving DecidableEq, Repr

/-- A fault in words. -/
def ConfigurationFault.message : ConfigurationFault → String
  | .unknownDialect given =>
    "unknown dialect variant '" ++ given ++ "' (expected v1, v2 or v2-lite)"
  | .unknownCasing given => "unknown casing '" ++ given ++ "'"
  | .unknownFallback given =>
    "unknown type fallback '" ++ given ++ "' (expected unknown or any)"
  | .blankSchemaName => "schema name must not be empty"
  | .badPattern role pattern => "invalid " ++ role ++ " pattern '" ++ pattern ++ "'"
  | .stated text => text

/-! ## Choices -/

/-- The syntax that validators are written in. -/
inductive Dialect
  /-- Method chains whose format leaves refine a plain leaf. -/
  | v1
  /-- Method chains with format leaves at the top level. -/
  | v2
  /-- Function composition with grouped checks. -/
  | v2Lite
  deriving DecidableEq, Repr

/-- The leaf for data types that no rule recognizes. -/
inductive TypeFallback
  | unknown
  | any
  deriving DecidableEq, Repr

/-- What a person typed, without white space around it and with ASCII letters in lower
case. -/
def typedLabel (text : String) : String :=
  String.ofList (Text.asciiLowercase (Text.trim text.toList))

/-- The text with `new` for each character of `old`. -/
def replaceChars (old : List Char) (new : Char) (text : String) : String :=
  String.ofList (text.toList.map fun c => if old.contains c then new else c)

namespace Dialect

/-- The name of a dialect. -/
def label : Dialect → String
  | .v1 => "v1"
  | .v2 => "v2"
  | .v2Lite => "v2-lite"

/-- All dialects by name. -/
def labels : List (String × Dialect) := [("v1", .v1), ("v2", .v2), ("v2-lite", .v2Lite)]

/-- Reads a dialect from what a person typed. -/
def parse (text : String) : Except ConfigurationFault Dialect :=
  match typedLabel text with
  | "v1" => .ok .v1
  | "v2" => .ok .v2
  | "v2-lite" => .ok .v2Lite
  | "v2_lite" => .ok .v2Lite
  | "v2lite" => .ok .v2Lite
  | other => .error (.unknownDialect other)

end Dialect

namespace Casing

/-- The name of a casing. -/
def label : Casing → String
  | .camelCase => "camel_case"
  | .snakeCase => "snake_case"
  | .pascalCase => "pascal_case"
  | .passthrough => "passthrough"

/-- All casings by name. -/
def labels : List (String × Casing) :=
  [("camel_case", .camelCase), ("snake_case", .snakeCase), ("pascal_case", .pascalCase),
    ("passthrough", .passthrough)]

/-- Reads a casing from what a person typed; hyphens count as underscores. -/
def parse (text : String) : Except ConfigurationFault Casing :=
  match replaceChars ['-'] '_' (typedLabel text) with
  | "camel_case" => .ok .camelCase
  | "camel" => .ok .camelCase
  | "camelcase" => .ok .camelCase
  | "snake_case" => .ok .snakeCase
  | "snake" => .ok .snakeCase
  | "pascal_case" => .ok .pascalCase
  | "pascal" => .ok .pascalCase
  | "pascalcase" => .ok .pascalCase
  | "passthrough" => .ok .passthrough
  | "none" => .ok .passthrough
  | "keep" => .ok .passthrough
  | other => .error (.unknownCasing other)

end Casing

namespace TypeFallback

/-- The name of a fallback. -/
def label : TypeFallback → String
  | .unknown => "unknown"
  | .any => "any"

/-- All fallbacks by name. -/
def labels : List (String × TypeFallback) := [("unknown", .unknown), ("any", .any)]

/-- Reads a fallback from what a person typed. -/
def parse (text : String) : Except ConfigurationFault TypeFallback :=
  match typedLabel text with
  | "unknown" => .ok .unknown
  | "any" => .ok .any
  | other => .error (.unknownFallback other)

end TypeFallback

/-! ## Options -/

/-- Every option that bears on what is rendered. -/
structure Configuration where
  dialect : Dialect := .v2
  /-- Casing of property names and transform functions. -/
  fieldCasing : Casing := .camelCase
  /-- Casing of schema, type and enum type names. -/
  objectCasing : Casing := .pascalCase
  /-- Rename properties by `fieldCasing` and name transform functions. -/
  caseTransform : Bool := false
  singularize : Bool := true
  coerceDatesOnRead : Bool := true
  stringifyDatesOnWrite : Bool := false
  stringifyJsonOnWrite : Bool := false
  emptyArrayDefault : Bool := false
  undefinedDefault : Bool := false
  typeFallback : Option TypeFallback := none
  /-- The module that exports hand-written schemas for json columns. -/
  jsonImport : Option String := none
  deriving DecidableEq, Repr

end ValidatorGen
