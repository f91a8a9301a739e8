/-
Text shown between double quotes inside a message: quotes, backslashes and what cannot be
seen are written as escapes, everything else as it is.
-/
import ValidatorGen.Text.Rows
import ValidatorGen.Text.VisibleTable

namespace ValidatorGen.Text

/-- A character that shows as itself and does not join the one before it. -/
def isVisible (c : Char) : Bool :=
  if isAscii c then 0x20 ≤ c.toNat && c.toNat < 0x7f
  else !inRanges VisibleTable.extending c.toNat && !inRanges VisibleTable.hidden c.toNat

/-- The code point in hexadecimal, without leading zeros. -/
def hexPoint (c : Char) : List Char := Nat.toDigits 16 c.toNat

/-- One character between double quotes. -/
def quotedChar (c : Char) : List Char :=
  if c == '\x00' then ['\\', '0']
  else if c == '\t' then ['\\', 't']
  else if c == '\r' then ['\\', 'r']
  else if c == '\n' then ['\\', 'n']
  else if c == '"' then ['\\', '"']
  else if c == '\\' then ['\\', '\\']
  else if isVisible c then [c]
  else ['\\', 'u', '\x7b'] ++ hexPoint c ++ ['\x7d']

/-- The text between double quotes, with escapes. -/
def quoted (text : String) : String :=
  String.ofList ('"' :: text.toList.flatMap quotedChar ++ ['"'])

end ValidatorGen.Text
