/-
Validators as data: what is checked first, and the steps that are put on top of it, in
order. How a validator is spelled is the business of a dialect.
-/
import ValidatorGen.Relation.Column

namespace ValidatorGen

/-- What a validator is for. -/
inductive Mode
  /-- Rows that come from the source; permissive. -/
  | read
  /-- Values that are about to be written; strict, and with write hints. -/
  | write
  deriving DecidableEq, Repr

namespace Mode

/-- The name of a mode. -/
def label : Mode → String
  | .read => "read"
  | .write => "write"

/-- All modes by name. -/
def labels : List (String × Mode) := [("read", .read), ("write", .write)]

end Mode

namespace Validator

/-- A refinement of the value itself. -/
inductive Check
  | trim
  | lowerCase
  | upperCase
  | normalize
  | nonnegative
  | minLength (n : UInt32)
  | maxLength (n : UInt32)
  | minimum (f : Float)
  | maximum (f : Float)

/-- Where the values of an enumeration are listed. -/
inductive Members
  /-- In a constant of the given name. -/
  | constant (name : String)
  /-- In place. -/
  | inline (values : List String)

/-- What a validator checks first. -/
inductive Base
  /-- A value of the type, permissively; dates may be coerced. -/
  | readLeaf (type : SemanticType) (coerceDates : Bool)
  /-- A value of the type, strictly. -/
  | writeLeaf (type : SemanticType)
  /-- One of some strings. -/
  | enumeration (members : Members)
  /-- What a schema written by hand accepts. -/
  | reference (name : String)

/-- What a value is turned into text by. -/
inductive Stringify
  | json
  | date
  | dates
  deriving DecidableEq, Repr

/-- A function that a checked value is put through. -/
inductive Transform
  /-- An empty array stands in for an absent value. -/
  | emptyArrayDefault
  /-- An absent value is left undefined. -/
  | undefinedDefault
  /-- The value becomes text; when guarded, an absent value stays as it is. -/
  | stringify (guarded : Bool) (how : Stringify)
  deriving DecidableEq, Repr

/-- What is put on top of a validator. -/
inductive Step
  | checks (list : List Check)
  | array
  | nullable
  | optional
  | transform (t : Transform)

end Validator

/-- A validator: what it checks first, and the steps on top of it. -/
structure Validator where
  base : Validator.Base
  steps : List Validator.Step

end ValidatorGen
