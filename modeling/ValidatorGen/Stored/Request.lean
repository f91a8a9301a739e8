/-
How options and requests are stored. Every field of them may be missing, and then has its
default.
-/
import ValidatorGen.Json.Codec
import ValidatorGen.Request

namespace ValidatorGen

open Json

/-- Dialects are stored by label. -/
def Dialect.codec : Codec Dialect := .choice label labels

/-- Casings are stored by label. -/
def Casing.codec : Codec Casing := .choice label labels

/-- Fallbacks are stored by label. -/
def TypeFallback.codec : Codec TypeFallback := .choice label labels

namespace Configuration

/-- The fields of a configuration. -/
def fields : List (Member Configuration) := [
  .of "dialect_variant" .defaulted Dialect.codec dialect fun v c => { c with dialect := v },
  .of "field_name_casing" .defaulted Casing.codec fieldCasing
    fun v c => { c with fieldCasing := v },
  .of "object_name_casing" .defaulted Casing.codec objectCasing
    fun v c => { c with objectCasing := v },
  .of "case_transform_enabled" .defaulted .bool caseTransform
    fun v c => { c with caseTransform := v },
  .of "singularization_enabled" .defaulted .bool singularize
    fun v c => { c with singularize := v },
  .of "coerce_dates_on_read" .defaulted .bool coerceDatesOnRead
    fun v c => { c with coerceDatesOnRead := v },
  .of "stringify_dates_on_write" .defaulted .bool stringifyDatesOnWrite
    fun v c => { c with stringifyDatesOnWrite := v },
  .of "stringify_json_on_write" .defaulted .bool stringifyJsonOnWrite
    fun v c => { c with stringifyJsonOnWrite := v },
  .of "default_empty_array_on_nullable_array" .defaulted .bool emptyArrayDefault
    fun v c => { c with emptyArrayDefault := v },
  .of "default_undefined_on_nullable" .defaulted .bool undefinedDefault
    fun v c => { c with undefinedDefault := v },
  .of "unknown_type_fallback" .defaulted (.nullable TypeFallback.codec) typeFallback
    fun v c => { c with typeFallback := v },
  .of "json_schema_import_location" .defaulted (.nullable .text) jsonImport
    fun v c => { c with jsonImport := v }]

/-- How configurations are stored. -/
def codec : Codec Configuration := .record "Configuration" fields {}

end Configuration

namespace TableFilter

/-- The string that a document is. -/
def text? : Document → Option String
  | .text s => s
  | _ => none

/-- A string is a pattern, a list of strings is a list of names. -/
def ofDocument? : Document → Option TableFilter
  | .text (some s) => some (.pattern s)
  | .list items _ => (items.mapM text?).map .names
  | _ => none

/-- Filters are stored as what they are made of. They are read as a whole before it is
decided which kind they are. -/
def codec : Codec TableFilter where
  encode
    | .pattern s => .text s
    | .names list => .list (list.map .text)
  decode r d :=
    match d.fault? r.room, ofDocument? d with
    | some f, _ => .error (.text f)
    | none, some filter => .ok filter
    | none, none => .error (.noVariant "TableFilter")

end TableFilter

namespace Selection

/-- The fields of a selection. -/
def fields : List (Member Selection) := [
  .of "schema_name" .defaulted .text schemaName fun v s => { s with schemaName := v },
  .of "include" .defaulted (.nullable TableFilter.codec) included
    fun v s => { s with included := v },
  .of "exclude" .defaulted (.nullable TableFilter.codec) excluded
    fun v s => { s with excluded := v }]

/-- How selections are stored. -/
def codec : Codec Selection := .record "NormalizeOptions" fields {}

end Selection

namespace Request

/-- The fields of a request. -/
def fields : List (Member Request) := [
  .of "options" .defaulted Selection.codec selection fun v r => { r with selection := v },
  .of "config" .defaulted Configuration.codec config fun v r => { r with config := v }]

/-- How requests are stored. -/
def codec : Codec Request := .record "GenerateRequest" fields {}

end Request

end ValidatorGen
