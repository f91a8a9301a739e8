/-
The words of a command line. A word that starts with a hyphen is an option by its look
alone, whatever stands before it; a lone hyphen is not one.
-/
namespace ValidatorGen.CommandLine

/-- A word of a command line. -/
inductive Word
  /-- Two hyphens: no options come after it. -/
  | separator
  /-- An option by name, and the value that is joined to it by an equals sign. -/
  | option (name : String) (value : Option String)
  /-- Options of one letter, after one hyphen. -/
  | letters (first : Char) (more : List Char)
  | plain (text : String)
  deriving DecidableEq, Repr

/-- The option of a word without its hyphens. -/
def Word.ofOption (text : List Char) : Word :=
  .option (String.ofList (text.takeWhile (· ≠ '=')))
    (match text.dropWhile (· ≠ '=') with
    | [] => none
    | _ :: value => some (String.ofList value))

/-- What a word looks like. -/
def Word.ofText (text : String) : Word :=
  match text.toList with
  | ['-', '-'] => .separator
  | '-' :: '-' :: rest => .ofOption rest
  | '-' :: first :: more => .letters first more
  | _ => .plain text

end ValidatorGen.CommandLine
