/-
The names of what is generated for a table. All are put together from the word for its
kind, the singular of its own name and a fixed suffix, and then cased.
-/
import ValidatorGen.Identifier.Singular
import ValidatorGen.Relation.Table
import ValidatorGen.Validator.OfColumn

namespace ValidatorGen

/-- The names generated for a table. -/
structure TableIdentifiers where
  /-- The word for the kind, which starts every name; empty when it is left out. -/
  kindToken : String
  entityName : String
  recordType : String
  baseType : String
  readSchema : String
  /-- Names for inserts and updates exist for base tables only. -/
  insertSchema : Option String
  updateSchema : Option String
  insertType : Option String
  updateType : Option String
  /-- Transform functions exist when properties are renamed. -/
  transformBase : Option String
  transformInsert : Option String
  transformUpdate : Option String
  deriving DecidableEq, Repr

namespace Naming

open Identifier

/-- Beginnings of a view's name that say that it is one. -/
def viewMarks : List String := ["v_", "vw_", "view_"]

/-- Beginnings of a materialized view's name that say that it is one. -/
def materializedViewMarks : List String := ["mv_", "mview_"]

/-- Whether a name starts with one of the marks, in any letter case. -/
def startsWithMark (marks : List String) (name : String) : Bool :=
  marks.any fun mark => mark.toList.isPrefixOf (Text.asciiLowercase name.toList)

/-- The word for a table's kind, unless its name already says it. -/
def kindToken? (kind : TableKind) (name : String) : Option String :=
  match kind with
  | .table => some "table"
  | .view => if startsWithMark viewMarks name then none else some "view"
  | .materializedView => if startsWithMark materializedViewMarks name then none else some "mv"
  | .foreignTable => some "foreign"
  | .unknown => none

/-- The name of what one row stands for. -/
def entityName (table : String) (config : Configuration) : String :=
  if config.singularize then singularize table else table

/-- A name made of the table's stem and a suffix. -/
def objectName (t : Table) (config : Configuration) (suffix : List String) : String :=
  compose ([(kindToken? t.kind t.name).getD "", entityName t.name config] ++ suffix)
    config.objectCasing

/-- The name of a transform function, when properties are renamed. -/
def transformName? (t : Table) (config : Configuration) (operation : String) : Option String :=
  if config.caseTransform then
    some (compose ["transform", (kindToken? t.kind t.name).getD "", entityName t.name config,
      operation, "record"] config.fieldCasing)
  else none

/-- Names that only base tables have. -/
def ifWritable (t : Table) (name : Option String) : Option String :=
  if t.kind = .table then name else none

/-- The names generated for a table. -/
def tableIdentifiers (t : Table) (config : Configuration) : TableIdentifiers where
  kindToken := (kindToken? t.kind t.name).getD ""
  entityName := entityName t.name config
  recordType := objectName t config []
  baseType := objectName t config ["base"]
  readSchema := objectName t config ["schema"]
  insertSchema := ifWritable t (some (objectName t config ["insert", "schema"]))
  updateSchema := ifWritable t (some (objectName t config ["update", "schema"]))
  insertType := ifWritable t (some (objectName t config ["insert"]))
  updateType := ifWritable t (some (objectName t config ["update"]))
  transformBase := transformName? t config "base"
  transformInsert := ifWritable t (transformName? t config "insert")
  transformUpdate := ifWritable t (transformName? t config "update")

/-- The name of a column in generated records. -/
def propertyName (column : String) (config : Configuration) : String :=
  if config.caseTransform then config.fieldCasing.applyTo column else column

/-- The constant that lists a column's values. -/
def enumConstantName (table column : String) (config : Configuration) : String :=
  constantCase (compose [entityName table config, column] .snakeCase)

/-- The type of a column's values. -/
def enumTypeName (table column : String) (config : Configuration) : String :=
  compose [entityName table config, column] config.objectCasing

/-- The schema written by hand for a json column. -/
def jsonSchemaName (table column : String) (config : Configuration) : String :=
  compose [entityName table config, column, "schema"] config.objectCasing

/-- The names that a column's validators may refer to. A schema written by hand is named
only when there is a module to import it from. -/
def columnIdentifiers (table : String) (c : Column) (config : Configuration) :
    ColumnIdentifiers where
  enumConstant := if c.isEnum then some (enumConstantName table c.name config) else none
  jsonSchema :=
    if c.semanticType = .json && !c.isEnum && config.jsonImport.isSome then
      some (jsonSchemaName table c.name config)
    else none

end Naming

end ValidatorGen
