/-
The four shapes of a clause that lists the values of a column:

* `col = ANY (ARRAY['a', 'b'])`
* `col IN ('a', 'b')`
* `col = 'a' OR col = 'b'`
* `col <@ ARRAY['a', 'b']`

Keywords have any letter case. Before a clause is read, the keyword CHECK, casts and
needless parentheses are taken away (`prepare`).
-/
import ValidatorGen.Check.Cast
import ValidatorGen.Check.Literal

namespace ValidatorGen.Check

open Text

/-- The shapes that are recognized. -/
inductive Grammar
  | anyArray
  | inList
  | orChain
  | containedIn
  deriving DecidableEq, Repr

namespace Grammar

/-- All shapes, in the order in which they are tried. -/
def all : List Grammar := [.anyArray, .inList, .orChain, .containedIn]

/-- The name of a shape. -/
def label : Grammar → String
  | .anyArray => "any_array"
  | .inList => "in_list"
  | .orChain => "or_chain"
  | .containedIn => "contained_in"

end Grammar

/-! ## Preparing a clause -/

/-- Drops the keyword CHECK when a blank or a parenthesis comes after it. -/
def dropCheck (text : List Char) : List Char :=
  match text with
  | a :: b :: c :: d :: e :: f :: rest =>
    if [a, b, c, d, e].map Char.toLower = ['c', 'h', 'e', 'c', 'k'] && (isBlank f || f == '(') then
      trimStart (f :: rest)
    else text
  | _ => text

/-- The clause as it is matched against the shapes. -/
def prepare (clause : List Char) : List Char :=
  stripOuterParens (mapPlain unwrapNames (mapPlain dropCasts (dropCheck (trim clause))))

/-! ## Matching a shape -/

/-- A column name at the start of the text, and the rest. -/
def scanColumn? (text : List Char) : Option (List Char × List Char) :=
  scanName? isFoldedNameStart text

/-- A list up to the square bracket after which only parentheses and blanks come. -/
def bracketedList? (text : List Char) : Option (List Char) :=
  match dropEndWhile (fun c => c == ')' || isBlank c) text with
  | [] => none
  | c :: rest => if (c :: rest).getLast? = some ']' then some (c :: rest).dropLast else none

/-- The inside of `ARRAY[…]`, in any number of parentheses. -/
def arrayList? (text : List Char) : Option (List Char) :=
  (stripWord? ['a', 'r', 'r', 'a', 'y'] (text.dropWhile fun c => c == '(' || isBlank c)).bind
    fun rest => (stripToken? '[' rest).bind bracketedList?

/-- The column and the list of `col = ANY (ARRAY[…])`. -/
def matchAnyArray? (clause : List Char) : Option (List Char × List Char) := do
  let (column, rest) ← scanColumn? clause
  let rest ← stripToken? '=' rest
  let rest ← stripWord? ['a', 'n', 'y'] (trimStart rest)
  let list ← arrayList? rest
  some (column, list)

/-- The column and the list of `col IN (…)`. -/
def matchInList? (clause : List Char) : Option (List Char × List Char) := do
  let (column, rest) ← scanColumn? clause
  let rest ← stripWordAndBlanks? [] rest
  let rest ← stripWord? ['i', 'n'] rest
  let rest ← stripToken? '(' rest
  if rest.getLast? = some ')' then some (column, rest.dropLast) else none

/-- The column and the list of `col <@ ARRAY[…]`. -/
def matchContainedIn? (clause : List Char) : Option (List Char × List Char) := do
  let (column, rest) ← scanColumn? clause
  let rest ← stripToken? '<' rest
  let rest ← stripWord? ['@'] rest
  let list ← arrayList? rest
  some (column, list)

/-- The column and the other side of `col = …`. -/
def matchEquality? (clause : List Char) : Option (List Char × List Char) := do
  let (column, rest) ← scanColumn? clause
  let rest ← stripToken? '=' rest
  some (column, trimStart rest)

/-- The values of a matched list, if the column is the one asked for. -/
def listValues? (target : List Char) (matched : Option (List Char × List Char)) :
    Option (List (List Char)) := do
  let (column, list) ← matched
  if canonicalName column = target then literalList? list else none

/-- The value of `col = 'a'`, if the column is the one asked for. -/
def equalityValue? (target clause : List Char) : Option (List Char) := do
  let (column, literal) ← matchEquality? (stripOuterParens clause)
  if canonicalName column = target then literalValue? literal else none

/-- The values that a prepared clause of the given shape lists for the column of that
canonical name. -/
def Grammar.values? (target clause : List Char) : Grammar → Option (List (List Char))
  | .anyArray => listValues? target (matchAnyArray? clause)
  | .inList => listValues? target (matchInList? clause)
  | .orChain => (splitTopLevel .orWord clause).mapM (equalityValue? target)
  | .containedIn => listValues? target (matchContainedIn? clause)

/-- The shapes under which a clause lists values for a column. -/
def matchingGrammars (column clause : String) : List Grammar :=
  let target := canonicalName column.toList
  let prepared := prepare clause.toList
  Grammar.all.filter fun g => (g.values? target prepared).isSome

/-- The values that one clause lists for a column, in all shapes. -/
def clauseValues (target clause : List Char) : List (List Char) :=
  Grammar.all.flatMap fun g => (g.values? target (prepare clause)).getD []

/-- The values that clauses list for a column, each once, in order of first appearance.
Clauses of other shapes list none. -/
def enumValues (column : String) (clauses : List String) : List String :=
  let target := canonicalName column.toList
  ((clauses.flatMap fun clause => clauseValues target clause.toList).eraseDups).map String.ofList

end ValidatorGen.Check
