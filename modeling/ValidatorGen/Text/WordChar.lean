/-
The character classes of patterns: what a word is made of, and what a number is made of,
in all scripts.
-/
import ValidatorGen.Text.Rows
import ValidatorGen.Text.WordTable

namespace ValidatorGen.Text

/-- A letter, mark, decimal digit, connector or joiner. -/
def isWordChar (c : Char) : Bool :=
  if isAscii c then c.isAlphanum || c == '_' else inRanges WordTable.word c.toNat

/-- A decimal digit of any script. -/
def isDecimalDigit (c : Char) : Bool :=
  if isAscii c then c.isDigit else inRanges WordTable.digit c.toNat

end ValidatorGen.Text
