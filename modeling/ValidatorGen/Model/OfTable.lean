/-
The model of a table. Extensions see the model of every column and then that of the table.
An expression that an extension left as it was is rendered again, for the column it
returned may be another one.
-/
import ValidatorGen.Run

namespace ValidatorGen

/-- What an extension does to models. -/
structure RenderHooks where
  /-- Called with the name of the table and the model of the column. -/
  onColumn : String → ColumnModel → Except Error ColumnModel := fun _ m => .ok m
  onTable : TableModel → Except Error TableModel := .ok

namespace ColumnModel

/-- The model of a column, before extensions see it. -/
def ofColumn (table : String) (c : Column) (config : Configuration) : ColumnModel :=
  let ids := Naming.columnIdentifiers table c config
  { column := c
    propertyName := Naming.propertyName c.name config
    readExpression := c.render config ids .read
    writeExpression := c.render config ids .write
    enumName := ids.enumConstant
    enumTypeName := if c.isEnum then some (Naming.enumTypeName table c.name config) else none
    jsonSchemaName := ids.jsonSchema }

/-- The model with those expressions rendered again that are as they were before. -/
def rerender (before m : ColumnModel) (config : Configuration) : ColumnModel :=
  { m with
    readExpression :=
      if m.readExpression = before.readExpression then m.column.render config m.identifiers .read
      else m.readExpression
    writeExpression :=
      if m.writeExpression = before.writeExpression then
        m.column.render config m.identifiers .write
      else m.writeExpression }

end ColumnModel

/-- The model of a column as the extension returns it. -/
def RenderHooks.runColumn (hooks : RenderHooks) (table : String) (config : Configuration)
    (m : ColumnModel) : Run ColumnModel := do
  let answer ← Run.ask (.columnModel table m) (hooks.onColumn table m)
  pure (m.rerender answer config)

/-- The models of the columns of a table. -/
def columnModels (t : Table) (config : Configuration) (hooks : Option RenderHooks) :
    Run (List ColumnModel) :=
  let models := t.columns.map fun c => ColumnModel.ofColumn t.name c config
  match hooks with
  | none => pure models
  | some hooks => models.mapM (hooks.runColumn t.name config)

/-- The definition of a column's enumeration, if it has one with a name. -/
def ColumnModel.enumDefinition? (table : String) (config : Configuration) (m : ColumnModel) :
    Option EnumDefinition :=
  if m.column.isEnum then
    m.enumName.map fun name =>
      { constantName := name
        typeName := m.enumTypeName.getD (Naming.enumTypeName table m.column.name config)
        values := m.column.enumValues }
  else none

/-- The import of a column's schema, if it has one and there is a module to take it from. -/
def ColumnModel.jsonImport? (config : Configuration) (m : ColumnModel) : Option JsonImport :=
  match m.jsonSchemaName, config.jsonImport with
  | some name, some location => some { name, location }
  | _, _ => none

/-- The members of a list whose key is neither seen before nor that of an earlier one. -/
def distinctFrom [BEq κ] (key : α → κ) : List κ → List α → List α
  | _, [] => []
  | seen, a :: as =>
    if seen.contains (key a) then distinctFrom key seen as
    else a :: distinctFrom key (key a :: seen) as

/-- The list without those that have the key of an earlier one. -/
def distinctBy [BEq κ] (key : α → κ) (as : List α) : List α := distinctFrom key [] as

/-- The model of a table with the given models of its columns. -/
def TableModel.ofColumns (t : Table) (config : Configuration) (columns : List ColumnModel) :
    TableModel where
  name := t.name
  schema := t.schema
  kind := t.kind
  identifiers := Naming.tableIdentifiers t config
  columns := columns
  writeColumns := columns.filter (·.column.isWritable)
  enums := distinctBy (·.constantName) (columns.filterMap (·.enumDefinition? t.name config))
  jsonImports := distinctBy (·.name) (columns.filterMap (·.jsonImport? config))

/-- What is reported about the model of a table. -/
def TableModel.note (m : TableModel) : String :=
  m.schema ++ "." ++ m.name ++ ": " ++ toString m.columns.length ++ " column(s), "
    ++ toString m.writeColumns.length ++ " writable, " ++ toString m.enums.length ++ " enum(s)"

/-- The model of a table as the extension, if there is one, returns it. -/
def hookTableModel (hooks : Option RenderHooks) (m : TableModel) : Run TableModel :=
  match hooks with
  | none => pure m
  | some hooks => Run.ask (.tableModel m) (hooks.onTable m)

/-- The model of a table. -/
def tableModel (t : Table) (config : Configuration) (hooks : Option RenderHooks) :
    Run TableModel := do
  let columns ← columnModels t config hooks
  let m ← hookTableModel hooks (.ofColumns t config columns)
  Run.report .debug "table_model_built" m.note
  pure m

end ValidatorGen
