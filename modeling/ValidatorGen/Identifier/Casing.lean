/-
Casings of identifiers. A casing takes an identifier apart into words and puts them
together again: humps (`userId`, `UserId`), or lower- or upper-case words with
underscores between them. `compose` does so for an identifier given in parts.
-/
import ValidatorGen.Identifier.Words

namespace ValidatorGen.Identifier

open Text

/-- A word with its first character in upper case and the others in lower case, each
character on its own. -/
def capitalize : List Char → List Char
  | [] => []
  | c :: rest => upper c ++ rest.flatMap lower

/-- Words in lower case with underscores between them. -/
def snake (text : List Char) : List Char :=
  ['_'].intercalate ((splitWords text).map lowercase)

/-- Words in upper case with underscores between them, as constants are written. -/
def constant (text : List Char) : List Char :=
  ['_'].intercalate ((splitWords text).map uppercase)

/-- Capitalized words without anything between them. -/
def pascal (text : List Char) : List Char :=
  (splitWords text).flatMap capitalize

/-- The first word in lower case, then capitalized words. -/
def camel (text : List Char) : List Char :=
  match splitWords text with
  | [] => []
  | word :: words => lowercase word ++ words.flatMap capitalize

end ValidatorGen.Identifier

namespace ValidatorGen

/-- A casing that generated identifiers can be given. -/
inductive Casing
  | camelCase
  | snakeCase
  | pascalCase
  /-- The source spelling, untouched. -/
  | passthrough
  deriving DecidableEq, Repr

open Identifier in
/-- The text in the given casing. -/
def Casing.apply : Casing → List Char → List Char
  | .camelCase, text => camel text
  | .snakeCase, text => snake text
  | .pascalCase, text => pascal text
  | .passthrough, text => text

namespace Identifier

/-- The parts of an identifier, empty ones left out, joined and cased. -/
def composeChars (parts : List (List Char)) (casing : Casing) : List Char :=
  casing.apply (['_'].intercalate (parts.filter (· ≠ [])))

/-- The parts of an identifier, empty ones left out, joined and cased. -/
def compose (parts : List String) (casing : Casing) : String :=
  String.ofList (composeChars (parts.map String.toList) casing)

/-- `userId` for `user_id`. -/
def camelCase (text : String) : String := String.ofList (camel text.toList)

/-- `UserId` for `user_id`. -/
def pascalCase (text : String) : String := String.ofList (pascal text.toList)

/-- `user_id` for `userId`. -/
def snakeCase (text : String) : String := String.ofList (snake text.toList)

/-- `USER_ID` for `userId`. -/
def constantCase (text : String) : String := String.ofList (constant text.toList)

end Identifier

/-- The text in the given casing. -/
def Casing.applyTo (casing : Casing) (text : String) : String :=
  String.ofList (casing.apply text.toList)

end ValidatorGen
