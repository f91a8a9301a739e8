/-
Single-quoted literals: inside, a quote is written twice. A literal may come after `N` or
after the name of a character set, and in parentheses.
-/
import ValidatorGen.Check.Parens
import ValidatorGen.Check.Split

namespace ValidatorGen.Check

/-- A value as the inside of a literal: every quote is doubled. -/
def escape (value : List Char) : List Char :=
  value.flatMap fun c => if c = quote then [quote, quote] else [c]

/-- The value that the inside of a literal stands for, unless a quote in it is alone. -/
def unescape? : List Char → Option (List Char)
  | [] => some []
  | [c] => if c = quote then none else some [c]
  | c :: d :: rest =>
    if c = quote then if d = quote then (unescape? rest).map (quote :: ·) else none
    else (unescape? (d :: rest)).map (c :: ·)

/-- A text that starts with a quote once its introducer is dropped: `N`, or an underscore
and ASCII letters and digits. -/
def dropIntroducer (text : List Char) : List Char :=
  match text with
  | c :: d :: rest =>
    if (c = 'N' || c = 'n') && d = quote then d :: rest
    else if c = '_' then
      let name := (d :: rest).takeWhile (· ≠ quote)
      let literal := (d :: rest).dropWhile (· ≠ quote)
      if literal ≠ [] && name.all Char.isAlphanum then literal else text
    else text
  | _ => text

/-- The inside of a text that starts and ends with a quote. -/
def quotedInside? : List Char → Option (List Char)
  | c :: rest => if c = quote && rest.getLast? = some quote then some rest.dropLast else none
  | [] => none

/-- The value of a text that is one literal. -/
def literalValue? (item : List Char) : Option (List Char) :=
  (quotedInside? (dropIntroducer (stripOuterParens item))).bind unescape?

/-- The values of a list of literals between commas, which is not empty. -/
def literalList? (list : List Char) : Option (List (List Char)) :=
  let list := stripOuterParens list
  if list = [] then none else (splitTopLevel .comma list).mapM literalValue?

end ValidatorGen.Check
