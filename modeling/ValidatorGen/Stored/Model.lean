/-
How models and the output of a run are stored.
-/
import ValidatorGen.Model.Summary
import ValidatorGen.Stored.Relation

namespace ValidatorGen

open Json

/-- Modes are stored by label. -/
def Mode.codec : Codec Mode := .choice label labels

namespace TableIdentifiers

/-- The fields of a table's names. -/
def fields : List (Member TableIdentifiers) := [
  .of "kind_token" .required .text kindToken fun v i => { i with kindToken := v },
  .of "entity_name" .required .text entityName fun v i => { i with entityName := v },
  .of "record_type" .required .text recordType fun v i => { i with recordType := v },
  .of "base_type" .required .text baseType fun v i => { i with baseType := v },
  .of "read_schema" .required .text readSchema fun v i => { i with readSchema := v },
  .of "insert_schema" .nullable (.nullable .text) insertSchema
    fun v i => { i with insertSchema := v },
  .of "update_schema" .nullable (.nullable .text) updateSchema
    fun v i => { i with updateSchema := v },
  .of "insert_type" .nullable (.nullable .text) insertType fun v i => { i with insertType := v },
  .of "update_type" .nullable (.nullable .text) updateType fun v i => { i with updateType := v },
  .of "transform_base" .nullable (.nullable .text) transformBase
    fun v i => { i with transformBase := v },
  .of "transform_insert" .nullable (.nullable .text) transformInsert
    fun v i => { i with transformInsert := v },
  .of "transform_update" .nullable (.nullable .text) transformUpdate
    fun v i => { i with transformUpdate := v }]

/-- No names at all. -/
def blank : TableIdentifiers :=
  ⟨"", "", "", "", "", none, none, none, none, none, none, none⟩

/-- How the names of a table are stored. -/
def codec : Codec TableIdentifiers := .record "TableIdentifiers" fields blank

end TableIdentifiers

namespace ColumnModel

/-- The fields of a column's model. -/
def fields : List (Member ColumnModel) := [
  .of "column" .required Column.codec column fun v m => { m with column := v },
  .of "property_name" .required .text propertyName fun v m => { m with propertyName := v },
  .of "read_expression" .required .text readExpression
    fun v m => { m with readExpression := v },
  .of "write_expression" .required .text writeExpression
    fun v m => { m with writeExpression := v },
  .of "enum_name" .nullable (.nullable .text) enumName fun v m => { m with enumName := v },
  .of "enum_type_name" .nullable (.nullable .text) enumTypeName
    fun v m => { m with enumTypeName := v },
  .of "json_schema_name" .nullable (.nullable .text) jsonSchemaName
    fun v m => { m with jsonSchemaName := v }]

/-- How the models of columns are stored. -/
def codec : Codec ColumnModel :=
  .record "ColumnRenderModel" fields ⟨{ name := "" }, "", "", "", none, none, none⟩

end ColumnModel

namespace EnumDefinition

/-- The fields of an enumeration. -/
def fields : List (Member EnumDefinition) := [
  .of "constant_name" .required .text constantName fun v d => { d with constantName := v },
  .of "type_name" .required .text typeName fun v d => { d with typeName := v },
  .of "values" .required (.list .text) values fun v d => { d with values := v }]

/-- How enumerations are stored. -/
def codec : Codec EnumDefinition := .record "EnumDefinition" fields ⟨"", "", []⟩

end EnumDefinition

namespace JsonImport

/-- The fields of an import. -/
def fields : List (Member JsonImport) := [
  .of "name" .required .text name fun v i => { i with name := v },
  .of "location" .required .text location fun v i => { i with location := v }]

/-- How imports are stored. -/
def codec : Codec JsonImport := .record "JsonSchemaImport" fields ⟨"", ""⟩

end JsonImport

namespace TableModel

/-- The fields of a table's model. -/
def fields : List (Member TableModel) := [
  .of "name" .required .text name fun v m => { m with name := v },
  .of "schema" .required .text schema fun v m => { m with schema := v },
  .of "kind" .required TableKind.codec kind fun v m => { m with kind := v },
  .of "identifiers" .required TableIdentifiers.codec identifiers
    fun v m => { m with identifiers := v },
  .of "columns" .required (.list ColumnModel.codec) columns fun v m => { m with columns := v },
  .of "write_columns" .required (.list ColumnModel.codec) writeColumns
    fun v m => { m with writeColumns := v },
  .of "enums" .required (.list EnumDefinition.codec) enums fun v m => { m with enums := v },
  .of "json_imports" .required (.list JsonImport.codec) jsonImports
    fun v m => { m with jsonImports := v }]

/-- How the models of tables are stored. -/
def codec : Codec TableModel :=
  .record "TableRenderModel" fields ⟨"", "", .table, .blank, [], [], [], []⟩

end TableModel

namespace Summary

/-- Names by label are stored as a map. -/
def groupsCodec : Codec (List (String × List String)) where
  encode groups := .record (groups.map fun group => (group.1, .list (group.2.map .text)))
  decode r d := (entriesOf (listOf Json.string) r d).map ofEntries

/-- The fields of a summary. -/
def fields : List (Member Summary) := [
  .of "name" .required .text name fun v s => { s with name := v },
  .of "tables" .required groupsCodec tables fun v s => { s with tables := v }]

/-- How summaries are stored. -/
def codec : Codec Summary := .record "SchemaSummary" fields ⟨"", []⟩

end Summary

namespace Output

/-- The fields of an output. -/
def fields : List (Member Output) := [
  .of "contract_version" .required .text contractVersion
    fun v o => { o with contractVersion := v },
  .of "summary" .required Summary.codec summary fun v o => { o with summary := v },
  .of "tables" .required (.list TableModel.codec) tables fun v o => { o with tables := v }]

/-- How the output of a run is stored. -/
def codec : Codec Output := .record "RenderOutput" fields ⟨"", ⟨"", []⟩, []⟩

end Output

end ValidatorGen
