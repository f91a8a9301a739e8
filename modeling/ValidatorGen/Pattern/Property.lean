/-
Sets of characters by the name of a property: general categories, scripts, and what is
alphabetic, of upper or lower case, or white space. Names are compared without regard to
case, spaces, hyphens and underscores, and an "is" before a name does not count. Other
properties have no set.
-/
import ValidatorGen.Pattern.CharSet
import ValidatorGen.Text.CategoryTable
import ValidatorGen.Text.LetterTable
import ValidatorGen.Text.ScriptTable

namespace ValidatorGen.Pattern

open Text

/-- A name as it is compared. -/
def propertyName (text : List Char) : String :=
  let plain (cs : List Char) : List Char :=
    (cs.filter fun c => isAscii c && c != ' ' && c != '_' && c != '-').map Char.toLower
  match text with
  | a :: b :: rest =>
    if a.toLower == 'i' && b.toLower == 's' then
      if plain rest = ['c'] then "isc" else String.ofList (plain rest)
    else String.ofList (plain text)
  | _ => String.ofList (plain text)

namespace CharSet

/-- The union of some tables. -/
def tables (list : List (List (Nat × Nat × Nat))) : CharSet := unions (list.map .table)

open CategoryTable in
/-- Letters. -/
def letter : CharSet := tables [upperLetter, lowerLetter, titleLetter, modifierLetter, otherLetter]

open CategoryTable in
/-- Marks. -/
def mark : CharSet := tables [nonspacingMark, spacingMark, enclosingMark]

open CategoryTable in
/-- Numbers. -/
def number : CharSet := tables [decimalNumber, letterNumber, otherNumber]

open CategoryTable in
/-- Punctuation. -/
def punctuation : CharSet :=
  tables [connector, dash, openPunctuation, closePunctuation, initialQuote, finalQuote,
    otherPunctuation]

open CategoryTable in
/-- Symbols. -/
def symbol : CharSet := tables [mathSymbol, currencySymbol, modifierSymbol, otherSymbol]

/-- The line separator. -/
def lineSeparator : CharSet := .range 0x2028 0x2028

/-- The paragraph separator. -/
def paragraphSeparator : CharSet := .range 0x2029 0x2029

/-- Separators. -/
def separator : CharSet := unions [.table CategoryTable.space, lineSeparator, paragraphSeparator]

/-- Whatever is none of these. -/
def other : CharSet := .compl (unions [letter, mark, number, punctuation, symbol, separator])

/-- Control characters. -/
def control : CharSet := .union (.range 0 0x1F) (.range 0x7F 0x9F)

/-- Characters for private use. -/
def privateUse : CharSet :=
  unions [.range 0xE000 0xF8FF, .range 0xF0000 0xFFFFD, .range 0x100000 0x10FFFD]

/-- Code points that no character has. -/
def unassigned : CharSet :=
  .diff other (unions [control, .table CategoryTable.format, privateUse])

/-- Letters and numbers made of them, and what else is alphabetic. -/
def alphabetic : CharSet :=
  unions [letter, .table CategoryTable.letterNumber, .table CategoryTable.otherAlphabetic]

/-- The set of a general category. -/
def category? (name : String) : Option CharSet :=
  match name with
  | "lu" | "uppercaseletter" => some (.table CategoryTable.upperLetter)
  | "ll" | "lowercaseletter" => some (.table CategoryTable.lowerLetter)
  | "lt" | "titlecaseletter" => some (.table CategoryTable.titleLetter)
  | "lc" | "casedletter" =>
    some (tables [CategoryTable.upperLetter, CategoryTable.lowerLetter, CategoryTable.titleLetter])
  | "lm" | "modifierletter" => some (.table CategoryTable.modifierLetter)
  | "lo" | "otherletter" => some (.table CategoryTable.otherLetter)
  | "l" | "letter" => some letter
  | "mn" | "nonspacingmark" => some (.table CategoryTable.nonspacingMark)
  | "mc" | "spacingmark" => some (.table CategoryTable.spacingMark)
  | "me" | "enclosingmark" => some (.table CategoryTable.enclosingMark)
  | "m" | "mark" | "combiningmark" => some mark
  | "nd" | "decimalnumber" | "digit" => some (.table CategoryTable.decimalNumber)
  | "nl" | "letternumber" => some (.table CategoryTable.letterNumber)
  | "no" | "othernumber" => some (.table CategoryTable.otherNumber)
  | "n" | "number" => some number
  | "pc" | "connectorpunctuation" => some (.table CategoryTable.connector)
  | "pd" | "dashpunctuation" => some (.table CategoryTable.dash)
  | "ps" | "openpunctuation" => some (.table CategoryTable.openPunctuation)
  | "pe" | "closepunctuation" => some (.table CategoryTable.closePunctuation)
  | "pi" | "initialpunctuation" => some (.table CategoryTable.initialQuote)
  | "pf" | "finalpunctuation" => some (.table CategoryTable.finalQuote)
  | "po" | "otherpunctuation" => some (.table CategoryTable.otherPunctuation)
  | "p" | "punctuation" | "punct" => some punctuation
  | "sm" | "mathsymbol" => some (.table CategoryTable.mathSymbol)
  | "sc" | "currencysymbol" => some (.table CategoryTable.currencySymbol)
  | "sk" | "modifiersymbol" => some (.table CategoryTable.modifierSymbol)
  | "so" | "othersymbol" => some (.table CategoryTable.otherSymbol)
  | "s" | "symbol" => some symbol
  | "zs" | "spaceseparator" => some (.table CategoryTable.space)
  | "zl" | "lineseparator" => some lineSeparator
  | "zp" | "paragraphseparator" => some paragraphSeparator
  | "z" | "separator" => some separator
  | "cc" | "control" | "cntrl" => some control
  | "cf" | "format" => some (.table CategoryTable.format)
  | "cs" | "surrogate" => some .empty
  | "co" | "privateuse" => some privateUse
  | "cn" | "unassigned" => some unassigned
  | "c" | "other" => some other
  | "any" => some (.compl .empty)
  | "assigned" => some (.compl unassigned)
  | "ascii" => some (.range 0 0x7F)
  | _ => none

/-- The set of a script. -/
def script? (name : String) : Option CharSet :=
  (ScriptTable.all.find? (·.1.contains name)).map fun (_, ranges) =>
    .table (ranges.map fun (first, last) => (first, last, 1))

/-- The set of a property that characters have or do not have. -/
def binary? (name : String) : Option CharSet :=
  match name with
  | "alphabetic" | "alpha" => some alphabetic
  | "uppercase" | "upper" => some (.union (ofRanges [('A', 'Z')]) (.table LetterTable.upper))
  | "lowercase" | "lower" => some (.union (ofRanges [('a', 'z')]) (.table LetterTable.lower))
  | "whitespace" | "wspace" | "space" => some .blank
  | _ => none

/-- The set of a property that has the given value. -/
def valued? (property value : String) : Option CharSet :=
  match property with
  | "generalcategory" | "gc" => category? value
  | "script" | "sc" => script? value
  | _ => none

/-- The text before and after the first place where `mark` stands. -/
def cutAt (mark : List Char) : List Char → Option (List Char × List Char)
  | [] => none
  | c :: rest =>
    if mark.isPrefixOf (c :: rest) then some ([], (c :: rest).drop mark.length)
    else (cutAt mark rest).map fun (before, after) => (c :: before, after)

/-- The set of what stands in braces: a name, or a property and its value, of which a mark
between them says no more. -/
def ofProperty? (text : List Char) : Option CharSet :=
  match ((cutAt ['!', '='] text).or (cutAt [':'] text)).or (cutAt ['='] text) with
  | some (property, value) => valued? (propertyName property) (propertyName value)
  | none =>
    let name := propertyName text
    ((binary? name).or (category? name)).or (script? name)

end CharSet

end ValidatorGen.Pattern
