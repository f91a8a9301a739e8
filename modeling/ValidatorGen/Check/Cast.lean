/-
Type casts, which are dropped before a clause is read: `::` and a type name, then perhaps
one or two numbers in parentheses, then any number of empty square brackets. A type name
is one of a few known phrases or a single word, with or without double quotes.
-/
import ValidatorGen.Check.Name

namespace ValidatorGen.Check

open Text

/-- Drops `word`, then one blank or more. -/
def stripWordAndBlanks? (word text : List Char) : Option (List Char) :=
  match stripWord? word text with
  | some (c :: rest) => if isBlank c then some (trimStart rest) else none
  | _ => none

/-- Drops `first`, blanks and `second`. -/
def stripPhrase? (first second text : List Char) : Option (List Char) :=
  (stripWordAndBlanks? first text).bind (stripWord? second)

/-- Drops `word` if the text starts with it. -/
def stripOptional (word text : List Char) : List Char := (stripWord? word text).getD text

/-- Drops a time with or without time zone. -/
def stripTimePhrase? (text : List Char) : Option (List Char) := do
  let rest ← stripWord? ['t', 'i', 'm', 'e'] text
  let rest ← stripWordAndBlanks? [] (stripOptional ['s', 't', 'a', 'm', 'p'] rest)
  let rest ← stripWord? ['w', 'i', 't', 'h'] rest
  let rest ← stripWordAndBlanks? [] (stripOptional ['o', 'u', 't'] rest)
  stripPhrase? ['t', 'i', 'm', 'e'] ['z', 'o', 'n', 'e'] rest

/-- Drops a type name of one word. -/
def stripTypeWord? (text : List Char) : Option (List Char) :=
  match stripOptional ['"'] text with
  | c :: rest =>
    if isFoldedNameStart c then
      some (stripOptional ['"'] (rest.dropWhile fun c => isWordChar c || c == '.'))
    else none
  | [] => none

/-- Drops a type name. -/
def stripTypeName? (text : List Char) : Option (List Char) :=
  stripPhrase? ['c', 'h', 'a', 'r', 'a', 'c', 't', 'e', 'r'] ['v', 'a', 'r', 'y', 'i', 'n', 'g'] text
    <|> stripPhrase? ['d', 'o', 'u', 'b', 'l', 'e'] ['p', 'r', 'e', 'c', 'i', 's', 'i', 'o', 'n'] text
    <|> stripPhrase? ['b', 'i', 't'] ['v', 'a', 'r', 'y', 'i', 'n', 'g'] text
    <|> stripTimePhrase? text
    <|> stripTypeWord? text

/-- Drops one digit or more. -/
def stripDigits? : List Char → Option (List Char)
  | [] => none
  | c :: rest => if isDecimalDigit c then some (rest.dropWhile isDecimalDigit) else none

/-- Drops blanks and one character that must come next. -/
def stripToken? (token : Char) (text : List Char) : Option (List Char) :=
  match trimStart text with
  | [] => none
  | c :: rest => if c = token then some rest else none

/-- Drops a comma and a number, with blanks before either. -/
def stripSecondNumber? (text : List Char) : Option (List Char) :=
  (stripToken? ',' text).bind fun rest => stripDigits? (trimStart rest)

/-- Drops one or two numbers in parentheses. -/
def stripNumbers? (text : List Char) : Option (List Char) := do
  let rest ← stripToken? '(' text
  let rest ← stripDigits? (trimStart rest)
  stripToken? ')' ((stripSecondNumber? rest).getD rest)

/-- Drops a pair of square brackets with nothing in it. -/
def stripBrackets? (text : List Char) : Option (List Char) :=
  (stripToken? '[' text).bind (stripToken? ']')

/-- Drops up to so many pairs of empty square brackets. -/
def stripDimensions : Nat → List Char → List Char
  | 0, text => text
  | n + 1, text =>
    match stripBrackets? text with
    | some rest => stripDimensions n rest
    | none => text

/-- What comes after the cast that the text starts with. -/
def stripCast? : List Char → Option (List Char)
  | ':' :: ':' :: rest =>
    (stripTypeName? (trimStart rest)).map fun rest =>
      let rest := (stripNumbers? rest).getD rest
      stripDimensions rest.length rest
  | _ => none

/-- The text without its casts; the next `skip` characters are inside one. -/
def dropCastsFrom : Nat → List Char → List Char
  | _, [] => []
  | skip + 1, _ :: rest => dropCastsFrom skip rest
  | 0, c :: rest =>
    match stripCast? (c :: rest) with
    | some after => dropCastsFrom (rest.length - after.length) rest
    | none => c :: dropCastsFrom 0 rest

/-- The text without its casts. -/
def dropCasts (text : List Char) : List Char := dropCastsFrom 0 text

end ValidatorGen.Check
