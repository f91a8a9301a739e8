/-
Parentheses that add nothing: around a single name, and around a whole clause.

A pass takes the parentheses off every name that stands alone in a pair, unless a name
character comes right before, for that would be a call; passes are repeated until one
changes nothing (`unwrapNames`). Then pairs around the whole text are taken off, as long as
the first parenthesis is closed by the last (`stripOuterParens`).
-/
import ValidatorGen.Check.Pieces
import ValidatorGen.Check.Name

namespace ValidatorGen.Check

open Text

/-- A name alone in parentheses at the start of the text: the name, and the rest. -/
def wrappedName? : List Char → Option (List Char × List Char)
  | '(' :: text =>
    match scanName? isNameStart (trimStart text) with
    | some (name, rest) =>
      match trimStart rest with
      | ')' :: rest => some (name, rest)
      | _ => none
    | none => none
  | _ => none

/-- One pass over a text. `atStart` holds before its first character only; the next `skip`
characters belong to a name that is taken out of its parentheses. -/
def unwrapFrom : Bool → Nat → List Char → List Char
  | _, _, [] => []
  | _, skip + 1, _ :: rest => unwrapFrom false skip rest
  | atStart, 0, c :: rest =>
    match if atStart then wrappedName? (c :: rest) else none with
    | some (name, after) => name ++ unwrapFrom false (rest.length - after.length) rest
    | none =>
      match if isNameChar c then none else wrappedName? rest with
      | some (name, after) => c :: (name ++ unwrapFrom false (rest.length - after.length) rest)
      | none => c :: unwrapFrom false 0 rest

/-- One pass over a text. -/
def unwrapPass (text : List Char) : List Char := unwrapFrom true 0 text

/-- Repeats `f` until it changes nothing, at most so many times. -/
def settle (f : List Char → List Char) : Nat → List Char → List Char
  | 0, text => text
  | n + 1, text => if f text = text then text else settle f n (f text)

/-- The text with every name taken out of its parentheses. A pass that changes the text
makes it shorter, so its length bounds the number of passes. -/
def unwrapNames (text : List Char) : List Char := settle unwrapPass text.length text

/-- Whether, from the given depth on, parentheses outside of quotes first close at the end
of the text. -/
def closesLast (depth : Int) (inQuote : Bool) : List Char → Bool
  | [] => depth == 0
  | c :: rest =>
    if c = quote then closesLast depth (!inQuote) rest
    else if inQuote then closesLast depth inQuote rest
    else if c = '(' then closesLast (depth + 1) inQuote rest
    else if c = ')' then
      if depth - 1 = 0 && rest ≠ [] then false else closesLast (depth - 1) inQuote rest
    else closesLast depth inQuote rest

/-- The inside of a text that is in one pair of parentheses, without white space around it. -/
def outerParens? (text : List Char) : Option (List Char) :=
  match text with
  | '(' :: rest =>
    if rest.getLast? = some ')' && closesLast 0 false text then some (trim rest.dropLast) else none
  | _ => none

/-- Takes off at most so many pairs of parentheses around the whole text. -/
def stripPairs : Nat → List Char → List Char
  | 0, text => text
  | n + 1, text =>
    match outerParens? text with
    | some inside => stripPairs n inside
    | none => text

/-- The text without white space and pairs of parentheses around it. -/
def stripOuterParens (text : List Char) : List Char := stripPairs text.length (trim text)

end ValidatorGen.Check
