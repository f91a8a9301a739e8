/-
Cutting a text at a separator that stands outside of quotes and of every kind of bracket:
at a comma, or at the word `or` in any letter case between blanks or parentheses. The
pieces with the separators between them are the text.
-/
import ValidatorGen.Check.Pieces
import ValidatorGen.Text.Blank

namespace ValidatorGen.Check

open Text

/-- What a text is cut at. -/
inductive Separator
  | comma
  | orWord
  deriving DecidableEq, Repr

/-- A character that may stand next to the word `or`. -/
def bordersWord (c : Char) : Bool := isAsciiBlank c || c == '(' || c == ')'

/-- Whether the text starts with the word `or`, given the character before it. -/
def startsWithOr (before : Option Char) : List Char → Bool
  | c :: d :: rest =>
    (c == 'o' || c == 'O') && (d == 'r' || d == 'R') && before.any bordersWord
      && rest.head?.any bordersWord
  | _ => false

/-- How many characters the separator has that the text starts with. -/
def Separator.length? (before : Option Char) (text : List Char) : Separator → Option Nat
  | .comma => if text.head? = some ',' then some 1 else none
  | .orWord => if startsWithOr before text then some 2 else none

/-- How a character changes the depth of brackets. -/
def bracketStep (c : Char) : Int :=
  if c == '(' || c == '[' then 1 else if c == ')' || c == ']' then -1 else 0

/-- Puts a character in front of the first piece. -/
def consHead (c : Char) : List (List Char) → List (List Char)
  | [] => [[c]]
  | piece :: pieces => (c :: piece) :: pieces

/-- The pieces from here on. The next `skip` characters belong to a separator. -/
def splitFrom (sep : Separator) :
    Nat → Int → Bool → Option Char → List Char → List (List Char)
  | _, _, _, _, [] => [[]]
  | skip + 1, depth, inQuote, _, c :: rest => splitFrom sep skip depth inQuote (some c) rest
  | 0, depth, inQuote, before, c :: rest =>
    if c = quote then consHead c (splitFrom sep 0 depth (!inQuote) (some c) rest)
    else if inQuote then consHead c (splitFrom sep 0 depth inQuote (some c) rest)
    else
      match if depth + bracketStep c = 0 then sep.length? before (c :: rest) else none with
      | some n => [] :: splitFrom sep (n - 1) (depth + bracketStep c) inQuote (some c) rest
      | none => consHead c (splitFrom sep 0 (depth + bracketStep c) inQuote (some c) rest)

/-- The pieces of a text between its separators. -/
def splitTopLevel (sep : Separator) (text : List Char) : List (List Char) :=
  splitFrom sep 0 0 false none text

end ValidatorGen.Check
