/-
Singular forms by the look of the ending alone, in ASCII letters of either case:
`ies` becomes `y`; `sses`, `xes`, `ches` and `shes` lose two letters; `ss`, `us` and `is`
stay; any other `s` is dropped unless it is the whole name.
-/
import ValidatorGen.Text.Case

namespace ValidatorGen.Identifier

open Text

/-- Whether the text ends in `ending`, ASCII letters compared without case. -/
def endsLike (ending text : List Char) : Bool := ending.isSuffixOf (asciiLowercase text)

/-- The text without its last `n` characters. -/
def dropEnd (n : Nat) (text : List Char) : List Char := text.take (text.length - n)

/-- The singular form of a name. -/
def singular (text : List Char) : List Char :=
  if 3 < text.length && endsLike ['i', 'e', 's'] text then
    dropEnd 3 text ++ [if ['I', 'E', 'S'].isSuffixOf text then 'Y' else 'y']
  else if endsLike ['s', 's', 'e', 's'] text || endsLike ['x', 'e', 's'] text
      || endsLike ['c', 'h', 'e', 's'] text || endsLike ['s', 'h', 'e', 's'] text then
    dropEnd 2 text
  else if endsLike ['s', 's'] text || endsLike ['u', 's'] text || endsLike ['i', 's'] text then
    text
  else if 1 < text.length && endsLike ['s'] text then dropEnd 1 text
  else text

/-- The singular form of a name. -/
def singularize (text : String) : String := String.ofList (singular text.toList)

end ValidatorGen.Identifier
