/-
Sets of characters, as patterns describe them: ranges, the classes of digits, blanks and
word characters, and what is built from these by union, intersection, difference,
complement, and by taking in all letters that differ in case only.
-/
import ValidatorGen.Text.Blank
import ValidatorGen.Text.Fold
import ValidatorGen.Text.WordChar

namespace ValidatorGen.Text

/-- The code points that differ from the given one in case only, itself included. -/
def letterMates (n : Nat) : List Nat :=
  let base := foldPoint n
  base :: FoldTable.fold.filterMap fun (first, last, step, target) =>
    if target ≤ base && base ≤ target + (last - first) && (base - target) % step == 0 then
      some (first + (base - target))
    else none

end ValidatorGen.Text

namespace ValidatorGen.Pattern

open Text

/-- A set of characters. -/
inductive CharSet
  | empty
  /-- The code points from one to another, both included. -/
  | range (first last : Nat)
  /-- Decimal digits of all scripts. -/
  | digit
  /-- White space. -/
  | blank
  /-- Word characters of all scripts. -/
  | word
  /-- The points of the rows of a table. -/
  | table (rows : List (Nat × Nat × Nat))
  | union (a b : CharSet)
  | inter (a b : CharSet)
  | diff (a b : CharSet)
  | symmDiff (a b : CharSet)
  | compl (a : CharSet)
  /-- The set and all characters that differ from one of its members in case only. -/
  | anyCase (a : CharSet)
  deriving Repr

namespace CharSet

/-- Whether a code point belongs to the set. -/
def holds : CharSet → Nat → Bool
  | .empty, _ => false
  | .range first last, n => first ≤ n && n ≤ last
  | .digit, n => isDecimalDigit (Char.ofNat n)
  | .blank, n => isBlank (Char.ofNat n)
  | .word, n => isWordChar (Char.ofNat n)
  | .table rows, n => inRows rows n
  | .union a b, n => a.holds n || b.holds n
  | .inter a b, n => a.holds n && b.holds n
  | .diff a b, n => a.holds n && !b.holds n
  | .symmDiff a b, n => a.holds n != b.holds n
  | .compl a, n => !a.holds n
  | .anyCase a, n => (letterMates n).any a.holds

/-- Whether a character belongs to the set. -/
def mem (s : CharSet) (c : Char) : Bool := s.holds c.toNat

/-- The set of one character. -/
def single (c : Char) : CharSet := .range c.toNat c.toNat

/-- The union of some sets. -/
def unions (sets : List CharSet) : CharSet := sets.foldl .union .empty

/-- The union of ranges of ASCII characters. -/
def ofRanges (ranges : List (Char × Char)) : CharSet :=
  unions (ranges.map fun (a, b) => .range a.toNat b.toNat)

/-- The digits of ASCII. -/
def asciiDigit : CharSet := ofRanges [('0', '9')]

/-- The blanks of ASCII. -/
def asciiBlank : CharSet := ofRanges [('\t', '\r'), (' ', ' ')]

/-- The word characters of ASCII. -/
def asciiWord : CharSet := ofRanges [('0', '9'), ('A', 'Z'), ('_', '_'), ('a', 'z')]

/-- The set of a name between `[:` and `:]`. -/
def named? (name : List Char) : Option CharSet :=
  match String.ofList name with
  | "alnum" => some (ofRanges [('0', '9'), ('A', 'Z'), ('a', 'z')])
  | "alpha" => some (ofRanges [('A', 'Z'), ('a', 'z')])
  | "ascii" => some (.range 0 0x7F)
  | "blank" => some (ofRanges [('\t', '\t'), (' ', ' ')])
  | "cntrl" => some (.union (.range 0 0x1F) (.range 0x7F 0x7F))
  | "digit" => some asciiDigit
  | "graph" => some (.range 0x21 0x7E)
  | "lower" => some (ofRanges [('a', 'z')])
  | "print" => some (.range 0x20 0x7E)
  | "punct" => some (ofRanges [('!', '/'), (':', '@'), ('[', '\x60'), ('\x7b', '~')])
  | "space" => some asciiBlank
  | "upper" => some (ofRanges [('A', 'Z')])
  | "word" => some asciiWord
  | "xdigit" => some (ofRanges [('0', '9'), ('A', 'F'), ('a', 'f')])
  | _ => none

end CharSet

end ValidatorGen.Pattern
