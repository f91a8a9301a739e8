/-
Reading TOML: values, the statements of a document one after the other, and the table that
they make up. A text that is no document gives none, whatever is wrong with it.
-/
import ValidatorGen.Toml.Scalar
import ValidatorGen.Toml.Tree

namespace ValidatorGen.Toml

open Json

/-- What comes after a comment, up to the end of its line. -/
def skipComment (text : List Char) : List Char :=
  match text with
  | '#' :: rest => rest.dropWhile isTextChar
  | _ => text

/-- The text without the spaces, line ends and comments at its start; at most so many. -/
def skipFiller : Nat → List Char → List Char
  | 0, text => text
  | fuel + 1, text =>
    match skipComment (skipInline text) with
    | [] => []
    | c :: rest =>
      match newline? (c :: rest) with
      | some rest => skipFiller fuel rest
      | none => c :: rest

/-- The rest after one word. -/
def expectWord? : List Char → List Char → Option (List Char)
  | [], text => some text
  | _ :: _, [] => none
  | w :: word, c :: text => if w = c then expectWord? word text else none

/-- A truth value. -/
def readBoolean? (text : List Char) : Option (Document × List Char) :=
  match expectWord? ['t', 'r', 'u', 'e'] text with
  | some rest => some (.bool true, rest)
  | none => (expectWord? ['f', 'a', 'l', 's', 'e'] text).map fun rest => (.bool false, rest)

mutual

/-- A value; `room` more arrays and inline tables may be inside. -/
def readValue? : Nat → Nat → List Char → Option (Document × List Char)
  | 0, _, _ => none
  | _, _, [] => none
  | fuel + 1, room, c :: rest =>
    if c = '"' then (readQuoted? .basic (c :: rest)).map fun (s, r) =>
      (.text (some (String.ofList s)), r)
    else if c = '\x27' then (readQuoted? .literal (c :: rest)).map fun (s, r) =>
      (.text (some (String.ofList s)), r)
    else if c = '[' then
      match room with
      | 0 => none
      | room + 1 => (readItems? fuel room rest).map fun (items, r) => (.list items .closed, r)
    else if c = '\x7b' then
      match room with
      | 0 => none
      | room + 1 => do
        let rest := skipInline rest
        let (entries, rest) ←
          match expect? '\x7d' rest with
          | some rest => some ([], rest)
          | none => readPairs? fuel room [] rest
        some (Entries.document entries, rest)
    else if c = 't' || c = 'f' then readBoolean? (c :: rest)
    else if c.isDigit || c = '+' || c = '-' then readNumeric? (c :: rest)
    else
      (scanNamedFloat? (c :: rest)).map fun rest => (.number (some (.float (0.0 / 0.0))), rest)

/-- The items of an array up to its bracket; a comma may stand after the last. -/
def readItems? : Nat → Nat → List Char → Option (List Document × List Char)
  | 0, _, _ => none
  | fuel + 1, room, text =>
    let text := skipFiller (text.length + 1) text
    match expect? ']' text with
    | some rest => some ([], rest)
    | none => do
      let (item, rest) ← readValue? fuel room text
      let rest := skipFiller (rest.length + 1) rest
      match expect? ',' rest with
      | some rest => do
        let (items, rest) ← readItems? fuel room rest
        some (item :: items, rest)
      | none => do
        let rest ← expect? ']' rest
        some ([item], rest)

/-- The entries of an inline table up to its brace, one at least, on one line. -/
def readPairs? : Nat → Nat → Entries → List Char → Option (Entries × List Char)
  | 0, _, _, _ => none
  | fuel + 1, room, entries, text => do
    let (key, rest) ← readKey? nestingLimit text
    let rest ← expect? '=' rest
    let (value, rest) ← readValue? fuel room (skipInline rest)
    let entries ← putValue value key entries
    let rest := skipInline rest
    match expect? ',' rest with
    | some rest => readPairs? fuel room entries rest
    | none => do
      let rest ← expect? '\x7d' rest
      some (entries, rest)

end

/-- A statement of a document. -/
inductive Statement
  | pair (key : List String) (value : Document)
  | header (key : List String)
  | nextHeader (key : List String)

/-- A statement, up to the end of what it says. -/
def readStatement? (text : List Char) : Option (Statement × List Char) :=
  match text with
  | '[' :: '[' :: rest => do
    let (key, rest) ← readKey? nestingLimit rest
    let rest ← expectWord? [']', ']'] rest
    some (.nextHeader key, rest)
  | '[' :: rest => do
    let (key, rest) ← readKey? nestingLimit rest
    let rest ← expect? ']' rest
    some (.header key, rest)
  | _ => do
    let (key, rest) ← readKey? nestingLimit text
    let rest ← expect? '=' rest
    let (value, rest) ← readValue? (2 * text.length + 2) (nestingLimit - 1) (skipInline rest)
    some (.pair key value, rest)

/-- The statements of a text, each on lines of its own. -/
def readStatements? : Nat → List Char → Option (List Statement)
  | 0, _ => none
  | fuel + 1, text =>
    match skipFiller (text.length + 1) text with
    | [] => some []
    | c :: rest => do
      let (statement, rest) ← readStatement? (c :: rest)
      let rest := skipComment (skipInline rest)
      if rest = [] then some [statement]
      else do
        let rest ← newline? rest
        let statements ← readStatements? fuel rest
        some (statement :: statements)

/-- Changes the table of a path without its last name, given that name. -/
def changeParent (f : String → Entries → Option Entries) (key : List String) (entries : Entries) :
    Option Entries :=
  key.getLast?.bind fun name => changeAt (f name) key.dropLast entries

/-- The table that statements make up, from the table so far and the path of the header that
was seen last. -/
def build : List Statement → List String → Entries → Option Entries
  | [], _, entries => some entries
  | .pair key value :: more, path, entries =>
    (changeAt (putValue value key) path entries).bind (build more path)
  | .header key :: more, _, entries =>
    (changeParent openTable key entries).bind (build more key)
  | .nextHeader key :: more, _, entries =>
    (changeParent openNext key entries).bind (build more key)

/-- The text without the mark of byte order at its start. -/
def dropByteOrderMark (text : List Char) : List Char :=
  match text with
  | c :: rest => if c = '\uFEFF' then rest else text
  | [] => []

/-- The document that a text holds. -/
def parse? (text : String) : Option Document :=
  let text := dropByteOrderMark text.toList
  (readStatements? (text.length + 1) text).bind fun statements =>
    (build statements [] []).map Entries.document

end ValidatorGen.Toml
