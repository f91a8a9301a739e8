/-
Kinds of relations and of column types. The label of a relation's kind is also the first
key by which relations are sorted.
-/
import ValidatorGen.Configuration

namespace ValidatorGen

/-- The kind of relation that columns belong to. -/
inductive TableKind
  | table
  | view
  | materializedView
  | foreignTable
  | unknown
  deriving DecidableEq, Repr

namespace TableKind

/-- The name of a kind. -/
def label : TableKind → String
  | .table => "table"
  | .view => "view"
  | .materializedView => "materialized_view"
  | .foreignTable => "foreign_table"
  | .unknown => "unknown"

/-- The kind that a catalogue's name for it stands for; every other name is unknown. -/
def ofLabel (text : String) : TableKind :=
  match replaceChars [' ', '-'] '_' (typedLabel text) with
  | "table" => .table
  | "base_table" => .table
  | "partitioned_table" => .table
  | "view" => .view
  | "materialized_view" => .materializedView
  | "matview" => .materializedView
  | "foreign_table" => .foreignTable
  | "foreign" => .foreignTable
  | _ => .unknown

end TableKind

/-- What the values of a column are, whatever the engine calls their type. -/
inductive SemanticType
  | string
  | int
  | number
  | boolean
  | date
  | uuid
  | email
  | url
  | json
  | unknown
  | any
  deriving DecidableEq, Repr

namespace SemanticType

/-- The name of a type, as it is stored. -/
def label : SemanticType → String
  | .string => "string"
  | .int => "int"
  | .number => "number"
  | .boolean => "boolean"
  | .date => "date"
  | .uuid => "uuid"
  | .email => "email"
  | .url => "url"
  | .json => "json"
  | .unknown => "unknown"
  | .any => "any"

/-- All types by name. -/
def labels : List (String × SemanticType) :=
  [("string", .string), ("int", .int), ("number", .number), ("boolean", .boolean),
    ("date", .date), ("uuid", .uuid), ("email", .email), ("url", .url), ("json", .json),
    ("unknown", .unknown), ("any", .any)]

/-- The name of a type, as diagnostics show it. -/
def display : SemanticType → String
  | .string => "String"
  | .int => "Int"
  | .number => "Number"
  | .boolean => "Boolean"
  | .date => "Date"
  | .uuid => "Uuid"
  | .email => "Email"
  | .url => "Url"
  | .json => "Json"
  | .unknown => "Unknown"
  | .any => "Any"

/-- Types whose values are strings, and so have a length. -/
def isTextual : SemanticType → Bool
  | .string | .email | .url | .uuid => true
  | _ => false

/-- Types whose values are numbers. -/
def isNumeric : SemanticType → Bool
  | .int | .number => true
  | _ => false

end SemanticType

end ValidatorGen
