/-
Annotations: tags such as `@trim` or `@maxLength 20` inside a column's description. Tag
names have any letter case. A tag and its argument stand on one line; the reason of
`@deprecated` runs to the next tag or to the end of the line. A number that cannot be read
counts as absent, and tags that are not known are passed over.
-/
import ValidatorGen.Relation.Column
import ValidatorGen.Decimal.Reading

namespace ValidatorGen

/-- What a description says about its column. -/
structure Annotations where
  /-- Present when the column is deprecated; the reason may be absent all the same. -/
  deprecated : Option (Option String) := none
  hints : WriteHints := {}
  minLength : Option UInt32 := none
  maxLength : Option UInt32 := none
  min : Option Float := none
  max : Option Float := none

namespace Annotations

open Text Decimal

/-- A word that is a tag. -/
def isTag (word : List Char) : Bool := word.head? == some '@'

/-- The words of a reason at the start of some words. -/
def reasonWords (words : List (List Char)) : List (List Char) := words.takeWhile (!isTag ·)

/-- The words between single spaces, unless there are none. -/
def reason? (words : List (List Char)) : Option String :=
  if words = [] then none else some (String.ofList ([' '].intercalate words))

/-- What a tag of the given name says, given the words that come after it. -/
def apply (name : List Char) (after : List (List Char)) (a : Annotations) : Annotations :=
  let argument := after.head?
  match String.ofList (asciiLowercase name) with
  | "deprecated" => { a with deprecated := some (reason? (reasonWords after)) }
  | "trim" => { a with hints := { a.hints with trim := true } }
  | "lowercase" => { a with hints := { a.hints with lowercase := true } }
  | "uppercase" => { a with hints := { a.hints with uppercase := true } }
  | "normalize" => { a with hints := { a.hints with normalize := true } }
  | "nonnegative" => { a with hints := { a.hints with nonnegative := true } }
  | "minlength" => { a with minLength := argument.bind readUInt32? }
  | "maxlength" => { a with maxLength := argument.bind readUInt32? }
  | "min" => { a with min := argument.bind readFloat? }
  | "max" => { a with max := argument.bind readFloat? }
  | _ => a

/-- Reads the words of one line in order; every word that is no tag is passed over. -/
def readWords : List (List Char) → Annotations → Annotations
  | [], a => a
  | word :: after, a =>
    match word with
    | '@' :: name => readWords after (apply name after a)
    | _ => readWords after a

/-- The annotations of a description. -/
def ofChars (text : List Char) : Annotations :=
  (lines text).foldl (fun a line => readWords (blankWords line) a) {}

/-- The annotations of a description. -/
def ofDescription (text : String) : Annotations := ofChars text.toList

end Annotations

end ValidatorGen
