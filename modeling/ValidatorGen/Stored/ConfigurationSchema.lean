/-
A description of stored configurations, as a JSON Schema. Defaults are those of the
configuration that is stored when nothing is set.
-/
import ValidatorGen.Stored.Request

namespace ValidatorGen.ConfigurationSchema

open Json (Value)

/-- What an option can hold. -/
inductive Content
  | flag
  | text
  /-- A choice that is defined under a name. -/
  | choice (definition : String)
  /-- A choice that is defined under a name, or nothing. -/
  | optionalChoice (definition : String)

/-- A description, if there is one. -/
def described : Option String → List (String × Value)
  | none => []
  | some text => [("description", .text text)]

/-- A reference to a definition. -/
def reference (name : String) : Value := .record [("$ref", .text ("#/definitions/" ++ name))]

/-- What the schema says about a content. -/
def Content.fields : Content → List (String × Value)
  | .flag => [("type", .text "boolean")]
  | .text => [("type", .list [.text "string", .text "null"])]
  | .choice name => [("allOf", .list [reference name])]
  | .optionalChoice name =>
    [("anyOf", .list [reference name, .record [("type", .text "null")]])]

/-- All options in the order of their names. -/
def options : List (String × Content × Option String) := [
  ("case_transform_enabled", .flag,
    some "Rename properties with `field_name_casing` and emit transform functions."),
  ("coerce_dates_on_read", .flag, none),
  ("default_empty_array_on_nullable_array", .flag, none),
  ("default_undefined_on_nullable", .flag, none),
  ("dialect_variant", .choice "DialectVariant", none),
  ("field_name_casing", .choice "Casing", some "Casing of generated property names."),
  ("json_schema_import_location", .text,
    some "Module that exports hand-written JSON sub-schemas for json columns."),
  ("object_name_casing", .choice "Casing",
    some "Casing of generated schema, type and enum type names."),
  ("singularization_enabled", .flag, none),
  ("stringify_dates_on_write", .flag, none),
  ("stringify_json_on_write", .flag, none),
  ("unknown_type_fallback", .optionalChoice "UnknownTypeFallback", none)]

/-- The value of an option that is not set. -/
def default (name : String) : Value :=
  match Configuration.codec.encode {} with
  | .record fields => (fields.lookup name).getD .null
  | _ => .null

/-- What the schema says about an option. -/
def property : String × Content × Option String → String × Value
  | (name, content, description) =>
    (name, .record (described description ++ [("default", default name)] ++ content.fields))

/-- Some of the labels of a choice. -/
def labels (description : Option String) (names : List String) : Value :=
  .record (described description
    ++ [("type", .text "string"), ("enum", .list (names.map .text))])

/-- Labels of a choice that are described one by one. -/
def groups (description : String) (alternatives : List Value) : Value :=
  .record (described (some description) ++ [("oneOf", .list alternatives)])

/-- The choices. -/
def definitions : List (String × Value) := [
  ("Casing", groups "Casing applied to generated identifiers." [
    labels none [Casing.camelCase.label, Casing.snakeCase.label, Casing.pascalCase.label],
    labels (some "Keep the source spelling untouched.") [Casing.passthrough.label]]),
  ("DialectVariant", groups "Output syntax targeted by the renderer." [
    labels (some "Method chaining with refinement-style format leaves.") [Dialect.v1.label],
    labels (some "Method chaining with top-level format leaves.") [Dialect.v2.label],
    labels (some "Function composition with grouped checks.") [Dialect.v2Lite.label]]),
  ("UnknownTypeFallback",
    labels (some "Leaf rendered for data types the type mapper does not recognize.")
      [TypeFallback.unknown.label, TypeFallback.any.label])]

/-- The schema. -/
def value : Value := .record [
  ("$schema", .text "http://json-schema.org/draft-07/schema#"),
  ("title", .text "Configuration"),
  ("description",
    .text "Every option that influences rendering. Immutable for one generation run."),
  ("type", .text "object"), ("properties", .record (options.map property)),
  ("definitions", .record definitions)]

end ValidatorGen.ConfigurationSchema
