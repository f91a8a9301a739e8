/-
Columns, as a collector reports them and as they are after normalization.
-/
import ValidatorGen.Relation.Kind

namespace ValidatorGen

/-- A column exactly as a collector reported it. -/
structure RawColumn where
  table : String
  name : String
  /-- The declared type as the engine spells it. -/
  dataType : String
  isNullable : Bool
  defaultValue : Option String := none
  maxLength : Option UInt32 := none
  description : Option String := none
  /-- The CHECK clauses in the engine's own grammar. -/
  checks : List String := []
  tableKind : TableKind := .table
  /-- The engine generates the values. -/
  isIdentity : Bool := false
  /-- The namespace that the collector read the column from, when it knows. -/
  schema : Option String := none
  deriving DecidableEq, Repr

/-- What is done to a value before it is written, in the order of the fields. -/
structure WriteHints where
  trim : Bool := false
  lowercase : Bool := false
  uppercase : Bool := false
  normalize : Bool := false
  nonnegative : Bool := false
  deriving DecidableEq, Repr

/-- No hint at all. -/
def WriteHints.isEmpty (h : WriteHints) : Bool := h == {}

/-- A normalized column. -/
structure Column where
  name : String
  dataType : String := ""
  semanticType : SemanticType := .unknown
  isNullable : Bool := false
  isArray : Bool := false
  isEnum : Bool := false
  enumValues : List String := []
  /-- The engine generates the values. -/
  isSerial : Bool := false
  isWritable : Bool := false
  isReadOptional : Bool := false
  isWriteOptional : Bool := false
  minLength : Option UInt32 := none
  maxLength : Option UInt32 := none
  minValue : Option Float := none
  maxValue : Option Float := none
  defaultValue : Option String := none
  description : Option String := none
  isDeprecated : Bool := false
  deprecationReason : Option String := none
  writeHints : WriteHints := {}

namespace Column

/-- A writable column of the given type that must be present. -/
def ofType (name : String) (semanticType : SemanticType) : Column :=
  { name, semanticType, isWritable := true }

/-- The column has a default value. -/
def hasDefault (c : Column) : Bool := c.defaultValue.isSome

/-- The column with its optionality worked out anew: a nullable column may be absent when
it is read, and one with a default also when it is written. -/
def syncOptionality (c : Column) : Column :=
  { c with isReadOptional := c.isNullable, isWriteOptional := c.isNullable || c.hasDefault }

end Column

end ValidatorGen
