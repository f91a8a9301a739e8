/-
How the dialects spell validators. The two chained dialects differ in their leaves only;
the composed one has the same leaves as the second of them and its own spelling of every
step.
-/
import ValidatorGen.Validator.Expression
import ValidatorGen.Json.Value

namespace ValidatorGen

namespace Validator

/-- The leaf of a type when rows are read; all dialects share it. -/
def readLeaf (coerceDates : Bool) : SemanticType → String
  | .string | .uuid | .email | .url => "z.string()"
  | .int | .number => "z.number()"
  | .boolean => "z.boolean()"
  | .date => if coerceDates then "z.coerce.date()" else "z.date()"
  | .json | .unknown => "z.unknown()"
  | .any => "z.any()"

/-- The strict leaf of a type, with a format of its own where there is one. -/
def formatLeaf : SemanticType → String
  | .string => "z.string()"
  | .int => "z.int()"
  | .number => "z.number()"
  | .boolean => "z.boolean()"
  | .date => "z.date()"
  | .uuid => "z.uuid()"
  | .email => "z.email()"
  | .url => "z.url()"
  | .json => "z.json()"
  | .unknown => "z.unknown()"
  | .any => "z.any()"

/-- The strict leaf of a type where formats refine a plain leaf. -/
def refinedLeaf : SemanticType → String
  | .int => "z.number().int()"
  | .uuid => "z.string().uuid()"
  | .email => "z.string().email()"
  | .url => "z.string().url()"
  | .json => "z.union([z.string(), z.number(), z.boolean(), z.null(), " ++
      "z.record(z.string(), z.unknown()), z.array(z.unknown())])"
  | other => formatLeaf other

/-- A call of a function by name. -/
def call (name argument : String) : String := name ++ "(" ++ argument ++ ")"

/-- The name and the argument of a check, as it is chained. -/
def Check.chained : Check → String
  | .trim => "trim()"
  | .lowerCase => "toLowerCase()"
  | .upperCase => "toUpperCase()"
  | .normalize => "normalize()"
  | .nonnegative => "nonnegative()"
  | .minLength n => call "min" (toString n.toNat)
  | .maxLength n => call "max" (toString n.toNat)
  | .minimum f => call "min" (Decimal.plainText f)
  | .maximum f => call "max" (Decimal.plainText f)

/-- The name and the argument of a check, as a function. -/
def Check.composed : Check → String
  | .trim => "z.trim()"
  | .lowerCase => "z.toLowerCase()"
  | .upperCase => "z.toUpperCase()"
  | .normalize => "z.normalize()"
  | .nonnegative => "z.nonnegative()"
  | .minLength n => call "z.minLength" (toString n.toNat)
  | .maxLength n => call "z.maxLength" (toString n.toNat)
  | .minimum f => call "z.minimum" (Decimal.plainText f)
  | .maximum f => call "z.maximum" (Decimal.plainText f)

/-- The text of the members of an enumeration. -/
def Members.text : Members → String
  | .constant name => name
  | .inline values => (Json.Value.list (values.map .text)).compact

/-- What turns `value` into text. -/
def Stringify.text : Stringify → String
  | .json => "JSON.stringify(value)"
  | .date => "value.toISOString()"
  | .dates => "value.map((item) => item.toISOString())"

/-- The function of a transform. -/
def Transform.text : Transform → String
  | .emptyArrayDefault => "(value) => value ?? []"
  | .undefinedDefault => "(value) => value ?? undefined"
  | .stringify true how => "(value) => value == null ? value : " ++ how.text
  | .stringify false how => "(value) => " ++ how.text

end Validator

namespace Dialect

open Validator

/-- The strict leaf of a type. -/
def writeLeaf : Dialect → SemanticType → String
  | .v1 => refinedLeaf
  | .v2 | .v2Lite => formatLeaf

/-- The leaf of a type. -/
def leaf (d : Dialect) (mode : Mode) (coerceDates : Bool) (type : SemanticType) : String :=
  match mode with
  | .read => readLeaf coerceDates type
  | .write => d.writeLeaf type

/-- An enumeration of the given members. -/
def enumOf (_ : Dialect) (members : String) : String := call "z.enum" members

/-- An array of what the expression accepts. -/
def arrayOf (d : Dialect) (expr : String) : String :=
  match d with
  | .v1 | .v2 => expr ++ ".array()"
  | .v2Lite => call "z.array" expr

/-- What the expression accepts, or null. -/
def nullable (d : Dialect) (expr : String) : String :=
  match d with
  | .v1 | .v2 => expr ++ ".nullable()"
  | .v2Lite => call "z.nullable" expr

/-- What the expression accepts, or nothing. -/
def optional (d : Dialect) (expr : String) : String :=
  match d with
  | .v1 | .v2 => expr ++ ".optional()"
  | .v2Lite => call "z.optional" expr

/-- The expression with checks on its value. -/
def checks (d : Dialect) (expr : String) (list : List Check) : String :=
  match d with
  | .v1 | .v2 => list.foldl (fun out check => out ++ "." ++ check.chained) expr
  | .v2Lite =>
    if list.isEmpty then expr
    else expr ++ call ".check" (", ".intercalate (list.map Check.composed))

/-- The expression with its value put through a function. -/
def transform (d : Dialect) (expr body : String) : String :=
  match d with
  | .v1 | .v2 => expr ++ call ".transform" body
  | .v2Lite => "z.pipe(" ++ expr ++ ", " ++ call "z.transform" body ++ ")"

/-- The expression of a base. -/
def base (d : Dialect) : Base → String
  | .readLeaf type coerceDates => d.leaf .read coerceDates type
  | .writeLeaf type => d.writeLeaf type
  | .enumeration members => d.enumOf members.text
  | .reference name => name

/-- The expression with one more step. -/
def step (d : Dialect) (expr : String) : Step → String
  | .checks list => d.checks expr list
  | .array => d.arrayOf expr
  | .nullable => d.nullable expr
  | .optional => d.optional expr
  | .transform t => d.transform expr t.text

/-- The expression of a validator. -/
def spell (d : Dialect) (v : Validator) : String := v.steps.foldl d.step (d.base v.base)

end Dialect

end ValidatorGen
