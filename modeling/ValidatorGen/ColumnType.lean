/-
Declared types. A declared type is first brought to its plain name: lower case, without
double quotes, without anything in parentheses, without the qualifiers before the last
dot, and with single spaces between its words. Array marks are then taken off, and the
name that is left is looked up.
-/
import ValidatorGen.Relation.Kind

namespace ValidatorGen.ColumnType

open Text

/-- The text outside of parentheses, without them; `depth` pairs are open before it, and a
closing parenthesis without a partner is dropped as well. -/
def outsideParens : Nat → List Char → List Char
  | _, [] => []
  | depth, c :: rest =>
    if c = '(' then outsideParens (depth + 1) rest
    else if c = ')' then outsideParens (depth - 1) rest
    else if depth = 0 then c :: outsideParens 0 rest
    else outsideParens depth rest

/-- The text after the last dot. -/
def afterLastDot (text : List Char) : List Char :=
  (text.reverse.takeWhile (· ≠ '.')).reverse

/-- The plain name of a declared type. -/
def plainName (declared : List Char) : List Char :=
  let lower := (lowercase (trim declared)).filter (· ≠ '"')
  [' '].intercalate (blankWords (afterLastDot (outsideParens 0 lower)))

/-- The text without a pair of square brackets at its end, if there is one. -/
def dropBrackets? (text : List Char) : Option (List Char) :=
  match text.reverse with
  | ']' :: '[' :: rest => some rest.reverse
  | _ => none

/-- Takes off at most so many pairs of brackets and the white space before them. -/
def dropDimensions : Nat → List Char → List Char
  | 0, text => text
  | n + 1, text =>
    match dropBrackets? text with
    | some rest => dropDimensions n (trimEnd rest)
    | none => text

/-- The element type of a plain name, and whether the name is that of an array: an
underscore before it, brackets after it, or the bare word `array`. -/
def element (name : List Char) : List Char × Bool :=
  match name with
  | '_' :: rest => (rest, true)
  | _ =>
    let base := dropDimensions name.length name
    if base = ['a', 'r', 'r', 'a', 'y'] then ([], true) else (base, (dropBrackets? name).isSome)

/-- Types whose values are numbers that the engine counts up. -/
def serialNames : List String :=
  ["serial", "serial2", "serial4", "serial8", "smallserial", "bigserial"]

/-- The known type names, by the kind of their values. -/
def knownNames : List (List String × SemanticType) :=
  [(["text", "varchar", "character varying", "char", "character", "bpchar", "nchar", "nvarchar",
      "ntext", "citext", "name", "string", "tinytext", "mediumtext", "longtext", "clob", "xml",
      "inet", "cidr", "macaddr", "macaddr8", "time", "timetz", "time without time zone",
      "time with time zone", "interval", "tsvector", "tsquery"], .string),
    (["int", "int2", "int4", "int8", "integer", "smallint", "bigint", "tinyint", "mediumint",
      "oid"], .int),
    (serialNames, .int),
    (["numeric", "decimal", "real", "float", "float4", "float8", "double", "double precision",
      "money", "smallmoney", "number"], .number),
    (["bool", "boolean", "bit"], .boolean),
    (["date", "timestamp", "timestamptz", "timestamp without time zone",
      "timestamp with time zone", "datetime", "datetime2", "smalldatetime", "datetimeoffset"],
      .date),
    (["uuid", "uniqueidentifier"], .uuid),
    (["email"], .email),
    (["url", "uri"], .url),
    (["json", "jsonb"], .json)]

/-- The kind of values of a type name, if it is known. -/
def semanticType? (name : String) : Option SemanticType :=
  (knownNames.find? fun row => row.1.contains name).map (·.2)

/-- What a declared type is mapped to. -/
structure Mapped where
  semanticType : SemanticType
  isArray : Bool
  /-- The type alone says that the engine generates the values. -/
  isSerial : Bool
  /-- The type name is known, so no fallback was taken. -/
  recognized : Bool
  deriving DecidableEq, Repr

/-- The type of a column whose declared type is not known. -/
def fallbackType : Option TypeFallback → SemanticType
  | some .any => .any
  | some .unknown => .unknown
  | none => .unknown

/-- What a type of the given plain name is mapped to. -/
def mapName (fallback : Option TypeFallback) (name : List Char) : Mapped :=
  let (base, isArray) := element name
  let known := semanticType? (String.ofList base)
  { semanticType := known.getD (fallbackType fallback)
    isArray
    isSerial := serialNames.contains (String.ofList base)
    recognized := known.isSome }

/-- What a declared type is mapped to. -/
def map (declared : String) (fallback : Option TypeFallback) : Mapped :=
  mapName fallback (plainName declared.toList)

end ValidatorGen.ColumnType
