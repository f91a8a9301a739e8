/-
How columns, tables and schemas are stored.
-/
import ValidatorGen.Json.Codec
import ValidatorGen.Relation.Table

namespace ValidatorGen

open Json

/-- Kinds of relations are stored by label; every name a catalogue uses is read. -/
def TableKind.codec : Codec TableKind := .named label ofLabel

/-- Types of columns are stored by label. -/
def SemanticType.codec : Codec SemanticType := .choice label labels

namespace RawColumn

/-- The fields of a reported column. -/
def fields : List (Member RawColumn) := [
  .of "table" .required .text table fun v c => { c with table := v },
  .of "name" .required .text name fun v c => { c with name := v },
  .of "data_type" .required .text dataType fun v c => { c with dataType := v },
  .of "is_nullable" .required .bool isNullable fun v c => { c with isNullable := v },
  .of "default_value" .defaulted (.nullable .text) defaultValue
    fun v c => { c with defaultValue := v },
  .of "max_length" .defaulted (.nullable .uint32) maxLength fun v c => { c with maxLength := v },
  .of "description" .defaulted (.nullable .text) description
    fun v c => { c with description := v },
  .of "check_constraints" .defaulted (.list .text) checks fun v c => { c with checks := v },
  .of "table_kind" .defaulted TableKind.codec tableKind fun v c => { c with tableKind := v },
  .of "is_identity" .defaulted .bool isIdentity fun v c => { c with isIdentity := v },
  .of "schema" .defaulted (.nullable .text) schema fun v c => { c with schema := v }]

/-- A reported column of which nothing is known. -/
def blank : RawColumn := { table := "", name := "", dataType := "", isNullable := false }

/-- How reported columns are stored. -/
def codec : Codec RawColumn := .record "RawColumn" fields blank

end RawColumn

namespace WriteHints

/-- The fields of write hints. -/
def fields : List (Member WriteHints) := [
  .of "trim" .required .bool trim fun v h => { h with trim := v },
  .of "lowercase" .required .bool lowercase fun v h => { h with lowercase := v },
  .of "uppercase" .required .bool uppercase fun v h => { h with uppercase := v },
  .of "normalize" .required .bool normalize fun v h => { h with normalize := v },
  .of "nonnegative" .required .bool nonnegative fun v h => { h with nonnegative := v }]

/-- How write hints are stored. -/
def codec : Codec WriteHints := .record "WriteHints" fields {}

end WriteHints

namespace Column

/-- The fields of a column. -/
def fields : List (Member Column) := [
  .of "name" .required .text name fun v c => { c with name := v },
  .of "data_type" .required .text dataType fun v c => { c with dataType := v },
  .of "semantic_type" .required SemanticType.codec semanticType
    fun v c => { c with semanticType := v },
  .of "is_nullable" .required .bool isNullable fun v c => { c with isNullable := v },
  .of "is_array" .required .bool isArray fun v c => { c with isArray := v },
  .of "is_enum" .required .bool isEnum fun v c => { c with isEnum := v },
  .of "enum_values" .required (.list .text) enumValues fun v c => { c with enumValues := v },
  .of "is_serial" .required .bool isSerial fun v c => { c with isSerial := v },
  .of "is_writable" .required .bool isWritable fun v c => { c with isWritable := v },
  .of "is_read_optional" .required .bool isReadOptional
    fun v c => { c with isReadOptional := v },
  .of "is_write_optional" .required .bool isWriteOptional
    fun v c => { c with isWriteOptional := v },
  .of "min_length" .nullable (.nullable .uint32) minLength fun v c => { c with minLength := v },
  .of "max_length" .nullable (.nullable .uint32) maxLength fun v c => { c with maxLength := v },
  .of "min_value" .nullable (.nullable .float) minValue fun v c => { c with minValue := v },
  .of "max_value" .nullable (.nullable .float) maxValue fun v c => { c with maxValue := v },
  .of "default_value" .nullable (.nullable .text) defaultValue
    fun v c => { c with defaultValue := v },
  .of "description" .nullable (.nullable .text) description
    fun v c => { c with description := v },
  .of "is_deprecated" .required .bool isDeprecated fun v c => { c with isDeprecated := v },
  .of "deprecation_reason" .nullable (.nullable .text) deprecationReason
    fun v c => { c with deprecationReason := v },
  .of "write_hints" .required WriteHints.codec writeHints fun v c => { c with writeHints := v }]

/-- How columns are stored. -/
def codec : Codec Column := .record "Column" fields { name := "" }

end Column

namespace Table

/-- The fields of a table. -/
def fields : List (Member Table) := [
  .of "name" .required .text name fun v t => { t with name := v },
  .of "schema" .required .text schema fun v t => { t with schema := v },
  .of "kind" .required TableKind.codec kind fun v t => { t with kind := v },
  .of "columns" .required (.list Column.codec) columns fun v t => { t with columns := v }]

/-- How tables are stored. -/
def codec : Codec Table := .record "Table" fields ⟨"", "", .table, []⟩

end Table

namespace Schema

/-- The fields of a schema. -/
def fields : List (Member Schema) := [
  .of "name" .required .text name fun v s => { s with name := v },
  .of "tables" .required (.list Table.codec) tables fun v s => { s with tables := v }]

/-- How schemas are stored; a stored schema keeps the order of its tables. -/
def codec : Codec Schema := .record "Schema" fields ⟨"", []⟩

end Schema

end ValidatorGen
