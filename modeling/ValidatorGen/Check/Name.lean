/-
Column names inside clauses: bare, or between double quotes, backticks or square brackets.
-/
import ValidatorGen.Text.Blank
import ValidatorGen.Text.Case
import ValidatorGen.Text.Fold
import ValidatorGen.Text.WordChar

namespace ValidatorGen.Check

open Text

/-- The backtick, which encloses names. -/
def backtick : Char := '\x60'

/-- A character that a bare name can start with. -/
def isNameStart (c : Char) : Bool := c.isAlpha || c == '_'

/-- A character that a bare name can start with when letter case does not count, which
takes in the long `s` and the Kelvin sign. -/
def isFoldedNameStart (c : Char) : Bool :=
  isNameStart c || sameLetter 's' c || sameLetter 'k' c

/-- A character that a bare name can go on with. -/
def isNameChar (c : Char) : Bool := isWordChar c || c == '$'

/-- A name up to its closing quote, which is not empty: the name with its quotes, and the
rest. -/
def scanQuotedName? (opening closing : Char) (text : List Char) :
    Option (List Char × List Char) :=
  match text.takeWhile (· ≠ closing), text.dropWhile (· ≠ closing) with
  | c :: body, _ :: rest => some (opening :: c :: body ++ [closing], rest)
  | _, _ => none

/-- The name that the text starts with, quotes included, and the rest. -/
def scanName? (start : Char → Bool) : List Char → Option (List Char × List Char)
  | [] => none
  | c :: rest =>
    if c = '"' then scanQuotedName? '"' '"' rest
    else if c = backtick then scanQuotedName? backtick backtick rest
    else if c = '[' then scanQuotedName? '[' ']' rest
    else if start c then some (c :: rest.takeWhile isNameChar, rest.dropWhile isNameChar)
    else none

/-- A character that encloses names. -/
def isNameQuote (c : Char) : Bool := c == '"' || c == backtick || c == '[' || c == ']'

/-- A name as columns are compared by it: without white space and quotes around it, in lower
case. -/
def canonicalName (text : List Char) : List Char :=
  lowercase (stripWhile isNameQuote (trim text))

/-- The text of a name as columns are compared by it. -/
def normalizeIdentifier (text : String) : String :=
  String.ofList (canonicalName text.toList)

end ValidatorGen.Check
