/-
Comparing characters without regard to case: two characters are the same letter when
simple case folding sends them to the same code point.
-/
import ValidatorGen.Text.Rows
import ValidatorGen.Text.FoldTable

namespace ValidatorGen.Text

/-- The code point that stands for all characters that differ from this one in case only. -/
def foldPoint (n : Nat) : Nat := (mapped? FoldTable.fold n).getD n

/-- Whether two characters differ in case only, if at all. -/
def sameLetter (a b : Char) : Bool := foldPoint a.toNat == foldPoint b.toNat

/-- Drops `word` from the start of the text, where case does not count. -/
def stripWord? : List Char → List Char → Option (List Char)
  | [], text => some text
  | _ :: _, [] => none
  | w :: word, c :: text => if sameLetter w c then stripWord? word text else none

end ValidatorGen.Text
