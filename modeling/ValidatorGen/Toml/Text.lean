/-
Strings and keys of TOML. Basic strings stand between double quotes and have escapes,
literal strings stand between single quotes and have none; either may have several lines
between tripled quotes. A key is a dotted path of bare or quoted names.
-/
import ValidatorGen.Json.Document

namespace ValidatorGen.Toml

/-- Space or tab. -/
def isInlineSpace (c : Char) : Bool := c == ' ' || c == '\t'

/-- The text without the spaces and tabs at its start. -/
def skipInline (text : List Char) : List Char := text.dropWhile isInlineSpace

/-- A character that may stand in strings and comments: no control character but the tab. -/
def isTextChar (c : Char) : Bool := c == '\t' || (0x20 ≤ c.toNat && c.toNat ≠ 0x7f)

/-- What comes after the end of a line that the text starts with. -/
def newline? : List Char → Option (List Char)
  | '\n' :: rest => some rest
  | '\r' :: '\n' :: rest => some rest
  | _ => none

/-! ## Strings -/

/-- The character of an escape of one letter. -/
def escape? (c : Char) : Option Char :=
  if c == 'b' then some '\x08'
  else if c == 't' then some '\t'
  else if c == 'n' then some '\n'
  else if c == 'f' then some '\x0c'
  else if c == 'r' then some '\r'
  else if c == '"' || c == '\\' then some c
  else none

/-- The character whose code point has the given hexadecimal digits. -/
def point? (digits : List Char) : Option Char :=
  (digits.mapM Json.hexValue?).bind fun values =>
    let n := values.foldl (fun n v => n * 16 + v) 0
    if n.isValidChar then some (Char.ofNat n) else none

/-- An escape after its backslash: the character it stands for, and the rest. -/
def scanEscape? : List Char → Option (Char × List Char)
  | 'u' :: a :: b :: c :: d :: rest => (point? [a, b, c, d]).map (·, rest)
  | 'U' :: a :: b :: c :: d :: e :: f :: g :: h :: rest =>
    (point? [a, b, c, d, e, f, g, h]).map (·, rest)
  | c :: rest => (escape? c).map (·, rest)
  | [] => none

/-- The kinds of quotes: those inside of which escapes are read, and those inside of which
nothing is. -/
inductive Quote
  | basic
  | literal
  deriving DecidableEq, Repr

/-- The character of a quote. -/
def Quote.char : Quote → Char
  | .basic => '"'
  | .literal => '\x27'

/-- A string on one line after its opening quote: its characters, and the rest. -/
def scanString? (q : Quote) : Nat → List Char → Option (List Char × List Char)
  | 0, _ => none
  | _, [] => none
  | fuel + 1, c :: rest =>
    let go (c : Char) (rest : List Char) :=
      (scanString? q fuel rest).map fun (s, rest) => (c :: s, rest)
    if c = q.char then some ([], rest)
    else if c = '\\' && q = .basic then (scanEscape? rest).bind fun (c, rest) => go c rest
    else if isTextChar c then go c rest
    else none

/-- The text without the spaces and line ends at its start; at most so many. -/
def skipBlankLines : Nat → List Char → List Char
  | 0, text => text
  | fuel + 1, text =>
    match newline? text with
    | some rest => skipBlankLines fuel rest
    | none =>
      match text with
      | c :: rest => if isInlineSpace c then skipBlankLines fuel rest else text
      | [] => []

/-- What comes after a line end that is escaped, given what follows the backslash. -/
def escapedNewline? (text : List Char) : Option (List Char) :=
  (newline? (skipInline text)).map fun rest => skipBlankLines rest.length rest

/-- A string of several lines after its opening quotes: its characters, and the rest. Up to
two quotes may stand inside or right before the closing ones. -/
def scanLines? (q : Quote) : Nat → List Char → Option (List Char × List Char)
  | 0, _ => none
  | _, [] => none
  | fuel + 1, c :: rest =>
    let go (cs : List Char) (rest : List Char) :=
      (scanLines? q fuel rest).map fun (s, rest) => (cs ++ s, rest)
    if c = q.char then
      let n := ((c :: rest).takeWhile (· = q.char)).length
      if n < 3 then go (List.replicate n c) ((c :: rest).drop n)
      else some (List.replicate (min (n - 3) 2) c, (c :: rest).drop (min n 5))
    else if c = '\\' && q = .basic then
      match escapedNewline? rest with
      | some rest => go [] rest
      | none => (scanEscape? rest).bind fun (c, rest) => go [c] rest
    else
      match newline? (c :: rest) with
      | some rest => go ['\n'] rest
      | none => if isTextChar c then go [c] rest else none

/-- A string of one line. -/
def readString? (q : Quote) (text : List Char) : Option (List Char × List Char) :=
  scanString? q (text.length + 1) text

/-- A string of several lines; a line end right after the opening quotes does not count. -/
def readLines? (q : Quote) (text : List Char) : Option (List Char × List Char) :=
  scanLines? q (text.length + 1) ((newline? text).getD text)

/-- The string that starts with a quote of the given kind. -/
def readQuoted? (q : Quote) (text : List Char) : Option (List Char × List Char) :=
  match text with
  | a :: b :: c :: rest =>
    if a = q.char && b = q.char && c = q.char then readLines? q rest
    else readString? q (b :: c :: rest)
  | _ :: rest => readString? q rest
  | [] => none

/-! ## Keys -/

/-- A character of a bare key. -/
def isBareKeyChar (c : Char) : Bool := c.isAlphanum || c == '_' || c == '-'

/-- One name of a key. -/
def readSimpleKey? (text : List Char) : Option (String × List Char) :=
  match text with
  | [] => none
  | c :: rest =>
    if c = Quote.char .basic then (readString? .basic rest).map fun (s, r) => (String.ofList s, r)
    else if c = Quote.char .literal then
      (readString? .literal rest).map fun (s, r) => (String.ofList s, r)
    else
      match text.takeWhile isBareKeyChar with
      | [] => none
      | name => some (String.ofList name, text.dropWhile isBareKeyChar)

/-- The names of a dotted key, with the spaces around them; fewer than the given number. -/
def readKey? : Nat → List Char → Option (List String × List Char)
  | 0, _ => none
  | fuel + 1, text => do
    let (name, rest) ← readSimpleKey? (skipInline text)
    match skipInline rest with
    | '.' :: rest => do
      let (names, rest) ← readKey? fuel rest
      some (name :: names, rest)
    | rest => some ([name], rest)

/-- How many names a key may have, and how many arrays and inline tables may be around a
value, one less each. -/
def nestingLimit : Nat := 80

end ValidatorGen.Toml
