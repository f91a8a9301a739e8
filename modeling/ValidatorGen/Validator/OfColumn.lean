/-
The validators of a column. Checks go on the value itself, before the array and null
wrappers; then come the default of an absent value and, when writing, the function that
turns the value into text.
-/
import ValidatorGen.Validator.Spelling

namespace ValidatorGen

/-- The names that a column's validators may refer to. -/
structure ColumnIdentifiers where
  enumConstant : Option String := none
  jsonSchema : Option String := none
  deriving DecidableEq, Repr

namespace Column

open Validator

/-- The members of a column's enumeration: its constant, or else its values in place. -/
def members? (c : Column) (ids : ColumnIdentifiers) : Option Members :=
  match ids.enumConstant with
  | some name => some (.constant name)
  | none => if c.enumValues.isEmpty then none else some (.inline c.enumValues)

/-- The schema written by hand that a column's values are left to. -/
def reference? (c : Column) (config : Configuration) (ids : ColumnIdentifiers) : Option String :=
  if c.semanticType = .json && config.jsonImport.isSome then ids.jsonSchema else none

/-- The leaf of a column. -/
def leaf (c : Column) (config : Configuration) : Mode → Base
  | .read => .readLeaf c.semanticType config.coerceDatesOnRead
  | .write => .writeLeaf c.semanticType

/-- What a column's validator checks first. -/
def base (c : Column) (config : Configuration) (ids : ColumnIdentifiers) (mode : Mode) : Base :=
  if c.isEnum then
    match c.members? ids with
    | some members => .enumeration members
    | none => c.leaf config mode
  else
    match c.reference? config ids with
    | some name => .reference name
    | none => c.leaf config mode

/-- What is asked of a text before it is written. -/
def textHints (c : Column) : List Check :=
  let h := c.writeHints
  if c.semanticType = .string then
    (if h.trim then [.trim] else []) ++ (if h.lowercase then [.lowerCase] else [])
      ++ (if h.uppercase then [.upperCase] else []) ++ (if h.normalize then [.normalize] else [])
  else []

/-- The bounds on a value: on the length of a text, on the size of a number. -/
def bounds (c : Column) : List Check :=
  if c.semanticType.isTextual then
    (c.minLength.map Check.minLength).toList ++ (c.maxLength.map Check.maxLength).toList
  else if c.semanticType.isNumeric then
    (c.minValue.map Check.minimum).toList ++ (c.maxValue.map Check.maximum).toList
  else []

/-- The checks on a value that is about to be written, in order. -/
def writeChecks (c : Column) : List Check :=
  c.textHints
    ++ (if c.semanticType.isNumeric && c.writeHints.nonnegative then [.nonnegative] else [])
    ++ c.bounds

/-- Whether the column may be absent. -/
def isOptional (c : Column) : Mode → Bool
  | .read => c.isReadOptional
  | .write => c.isWriteOptional

/-- What stands in for an absent value. -/
def default? (c : Column) (config : Configuration) : Option Transform :=
  if !c.isNullable then none
  else if c.isArray && config.emptyArrayDefault then some .emptyArrayDefault
  else if config.undefinedDefault then some .undefinedDefault
  else none

/-- What turns a value of the column into text. -/
def stringify? (c : Column) (config : Configuration) : Option Stringify :=
  match c.semanticType with
  | .json => if config.stringifyJsonOnWrite then some .json else none
  | .date =>
    if config.stringifyDatesOnWrite then some (if c.isArray then .dates else .date) else none
  | _ => none

/-- The checks of a column, as a step, unless there are none. -/
def checkSteps (c : Column) (mode : Mode) : List Step :=
  if mode = .write && !c.isEnum && !c.writeChecks.isEmpty then [.checks c.writeChecks] else []

/-- The optional wrapper and what stands in for an absent value. -/
def optionalSteps (c : Column) (config : Configuration) (mode : Mode) : List Step :=
  if c.isOptional mode then
    .optional :: ((c.default? config).map Step.transform).toList
  else []

/-- The function that turns the value into text; it passes over absent values where there
may be any. -/
def stringifySteps (c : Column) (config : Configuration) (mode : Mode) : List Step :=
  if mode = .write then
    ((c.stringify? config).map fun how =>
      Step.transform (.stringify (c.isNullable || c.isOptional mode) how)).toList
  else []

/-- The steps of a column's validator. -/
def steps (c : Column) (config : Configuration) (mode : Mode) : List Step :=
  c.checkSteps mode ++ (if c.isArray then [.array] else [])
    ++ (if c.isNullable then [.nullable] else []) ++ c.optionalSteps config mode
    ++ c.stringifySteps config mode

/-- The validator of a column. -/
def validator (c : Column) (config : Configuration) (ids : ColumnIdentifiers) (mode : Mode) :
    Validator :=
  ⟨c.base config ids mode, c.steps config mode⟩

/-- The validator of a column in the configured dialect. -/
def render (c : Column) (config : Configuration) (ids : ColumnIdentifiers) (mode : Mode) : String :=
  config.dialect.spell (c.validator config ids mode)

end Column

end ValidatorGen
