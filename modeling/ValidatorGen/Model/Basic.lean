/-
Models: everything that is known about a table and its columns once validators are
rendered and names are chosen. They are what a template is filled with.
-/
import ValidatorGen.Naming

namespace ValidatorGen

/-- A column with its names and validators. -/
structure ColumnModel where
  column : Column
  propertyName : String
  readExpression : String
  writeExpression : String
  /-- The constant that lists the column's values. -/
  enumName : Option String
  enumTypeName : Option String
  /-- The schema written by hand for the column. -/
  jsonSchemaName : Option String

/-- The names that the column's validators may refer to. -/
def ColumnModel.identifiers (m : ColumnModel) : ColumnIdentifiers := ⟨m.enumName, m.jsonSchemaName⟩

/-- A constant that lists values, and the type of the values. -/
structure EnumDefinition where
  constantName : String
  typeName : String
  values : List String
  deriving DecidableEq, Repr

/-- A schema written by hand, and the module it comes from. -/
structure JsonImport where
  name : String
  location : String
  deriving DecidableEq, Repr

/-- A table with its names and the models of its columns. -/
structure TableModel where
  name : String
  schema : String
  kind : TableKind
  identifiers : TableIdentifiers
  columns : List ColumnModel
  /-- The columns that inserts and updates accept. -/
  writeColumns : List ColumnModel
  enums : List EnumDefinition
  jsonImports : List JsonImport

end ValidatorGen
