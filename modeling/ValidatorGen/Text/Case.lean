/-
Upper and lower case by the rules of Unicode. A character maps to one or more characters;
lowering a whole word also looks around each capital sigma, which at the end of a word has
a form of its own. ASCII is decided before any table is read.
-/
import ValidatorGen.Text.Rows
import ValidatorGen.Text.LetterTable
import ValidatorGen.Text.CaseTable

namespace ValidatorGen.Text

/-- A character with the property Uppercase. -/
def isUpper (c : Char) : Bool :=
  if isAscii c then c.isUpper else inRows LetterTable.upper c.toNat

/-- A character with the property Lowercase. -/
def isLower (c : Char) : Bool :=
  if isAscii c then c.isLower else inRows LetterTable.lower c.toNat

/-- A character that has a case, title case included. -/
def isCased (c : Char) : Bool :=
  if isAscii c then c.isAlpha else inRows LetterTable.cased c.toNat

/-- A character that may stand inside a word without ending it: marks, apostrophes, full
stops, colons and their like. -/
def isCaseIgnorable (c : Char) : Bool :=
  if isAscii c then
    c == '\'' || c == '.' || c == ':' || c == '^' || c.toNat == 0x60
  else inRows LetterTable.ignorable c.toNat

/-- The upper-case counterpart of one character. -/
def upper (c : Char) : List Char :=
  if isAscii c then [c.toUpper]
  else
    match CaseTable.upperExpansions.lookup c.toNat with
    | some points => points.map Char.ofNat
    | none => [(mapped? CaseTable.toUpper c.toNat).elim c Char.ofNat]

/-- The lower-case counterpart of one character, wherever it stands. -/
def lower (c : Char) : List Char :=
  if isAscii c then [c.toLower]
  else
    match CaseTable.lowerExpansions.lookup c.toNat with
    | some points => points.map Char.ofNat
    | none => [(mapped? CaseTable.toLower c.toNat).elim c Char.ofNat]

/-- Whether a cased character comes first once the characters that may stand inside a
word are passed over. -/
def meetsCased (text : List Char) : Bool :=
  (text.dropWhile isCaseIgnorable).head?.any isCased

/-- The lower-case form of `Σ` between the reversed text before it and the text after it:
the final form when a cased character comes before and none after. -/
def lowerSigma (before after : List Char) : Char :=
  if meetsCased before && !meetsCased after then 'ς' else 'σ'

/-- Lower-cases a text that follows the reversed text `before`. -/
def lowercaseAfter (before : List Char) : List Char → List Char
  | [] => []
  | c :: rest =>
    (if c == 'Σ' then [lowerSigma before rest] else lower c) ++ lowercaseAfter (c :: before) rest

/-- The text in lower case. -/
def lowercase (text : List Char) : List Char := lowercaseAfter [] text

/-- The text in upper case. -/
def uppercase (text : List Char) : List Char := text.flatMap upper

/-- The text with its ASCII letters in lower case and all else as it was. -/
def asciiLowercase (text : List Char) : List Char := text.map Char.toLower

end ValidatorGen.Text
