/-
Normalizing one row: what a reported column is as a column, and what is to be reported
about it.
-/
import ValidatorGen.Annotation
import ValidatorGen.Check.Grammar
import ValidatorGen.ColumnType
import ValidatorGen.Diagnostics

namespace ValidatorGen

/-- Whether the text occurs in the other one. -/
def Text.occursIn (needle : List Char) : List Char → Bool
  | [] => needle.isEmpty
  | c :: rest => needle.isPrefixOf (c :: rest) || occursIn needle rest

/-- Whether a default value is one that the engine counts up, in any letter case. -/
def isGeneratedDefault (text : String) : Bool :=
  let lower := Text.asciiLowercase text.toList
  "nextval(".toList.isPrefixOf lower || Text.occursIn "auto_increment".toList lower

namespace RawColumn

/-- What the declared type is mapped to. -/
def mapped (raw : RawColumn) (config : Configuration) : ColumnType.Mapped :=
  ColumnType.map raw.dataType config.typeFallback

/-- The values that the check clauses list. -/
def enumValues (raw : RawColumn) : List String := Check.enumValues raw.name raw.checks

/-- The default value without white space around it, unless there is nothing else. -/
def default? (raw : RawColumn) : Option String :=
  (raw.defaultValue.map fun text => String.ofList (Text.trim text.toList)).filter (· ≠ "")

/-- What the description says. -/
def annotations (raw : RawColumn) : Annotations := .ofDescription (raw.description.getD "")

/-- Whether the engine generates the values: by the type, by identity or by default. -/
def isGenerated (raw : RawColumn) (config : Configuration) : Bool :=
  (raw.mapped config).isSerial || raw.isIdentity || raw.default?.any isGeneratedDefault

/-- The bounds of a column. -/
structure Bounds where
  minLength : Option UInt32
  maxLength : Option UInt32
  minValue : Option Float
  maxValue : Option Float

/-- The bounds of a column of the given type. Plain bounds are bounds on the length of a
text, if they are whole, and on the value of all else; a bound on the length that says so
comes first, and the length that the engine reports comes last. -/
def bounds (raw : RawColumn) (type : SemanticType) : Bounds :=
  let a := raw.annotations
  if type.isTextual then
    { minLength := a.minLength.or (a.min.bind Decimal.wholeUInt32?)
      maxLength := (a.maxLength.or (a.max.bind Decimal.wholeUInt32?)).or raw.maxLength
      minValue := none
      maxValue := none }
  else
    { minLength := a.minLength
      maxLength := a.maxLength.or raw.maxLength
      minValue := a.min
      maxValue := a.max }

/-- A reported column as a column. -/
def column (raw : RawColumn) (config : Configuration) : Column :=
  let mapped := raw.mapped config
  let bounds := raw.bounds mapped.semanticType
  let annotations := raw.annotations
  Column.syncOptionality {
    name := raw.name
    dataType := raw.dataType
    semanticType := mapped.semanticType
    isNullable := raw.isNullable
    isArray := mapped.isArray
    isEnum := !raw.enumValues.isEmpty
    enumValues := raw.enumValues
    isSerial := raw.isGenerated config
    isWritable := !raw.isGenerated config && raw.tableKind == .table
    minLength := bounds.minLength
    maxLength := bounds.maxLength
    minValue := bounds.minValue
    maxValue := bounds.maxValue
    defaultValue := raw.default?
    description := raw.description
    isDeprecated := annotations.deprecated.isSome
    deprecationReason := annotations.deprecated.join
    writeHints := annotations.hints }

/-- The table and the name of a column, as diagnostics name it. -/
def fullName (raw : RawColumn) : String := raw.table ++ "." ++ raw.name

/-- What is reported about a column: a type that is not known, and check clauses none of
which lists values. -/
def notes (raw : RawColumn) (config : Configuration) : List Diagnostic :=
  let mapped := raw.mapped config
  (if mapped.recognized then []
    else [⟨.debug, "type_unmapped", raw.fullName ++ ": '" ++ raw.dataType ++ "' mapped to "
      ++ mapped.semanticType.display⟩])
  ++ (if raw.enumValues.isEmpty && !raw.checks.isEmpty then
      [⟨.debug, "constraint_unrecognized", raw.fullName ++ ": no enumeration in "
        ++ toString raw.checks.length ++ " check clause(s)"⟩]
    else [])

end RawColumn

end ValidatorGen
