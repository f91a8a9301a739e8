/-
Reading patterns. A pattern is branches between `|`, each a sequence of items; an item is a
character, a class, a condition or a group, and may be repeated. Flags such as `(?i)` hold
to the end of the group they stand in. What has no meaning is refused: look-around, back
references, unknown escapes, unbalanced groups, repetitions of nothing; and so is what is nested
deeper than 250 levels (`nestLimit`).
-/
import ValidatorGen.Pattern.Basic
import ValidatorGen.Pattern.Engine
import ValidatorGen.Pattern.Property
import ValidatorGen.Json.Document

namespace ValidatorGen.Pattern

open Text

/-- What is in force at a point of a pattern. -/
structure Flags where
  /-- Letters match in any case. -/
  anyCase : Bool := false
  /-- `^` and `$` match at lines. -/
  multiLine : Bool := false
  /-- `.` matches line feeds. -/
  dotAll : Bool := false
  /-- Classes take in all scripts. -/
  unicode : Bool := true
  /-- White space and comments in the pattern mean nothing. -/
  verbose : Bool := false
  /-- Carriage returns end lines as well. -/
  carriage : Bool := false
  deriving DecidableEq, Repr

/-! ## Small parts -/

/-- Drops white space and comments, where they mean nothing. -/
def skipVerbose (flags : Flags) : Nat → List Char → List Char
  | 0, text => text
  | fuel + 1, text =>
    if !flags.verbose then text
    else
      match trimStart text with
      | '#' :: rest => skipVerbose flags fuel (rest.dropWhile (· ≠ '\n'))
      | rest => rest

/-- Drops what means nothing at the start of the text. -/
def skip (flags : Flags) (text : List Char) : List Char := skipVerbose flags text.length text

/-- Characters with a meaning of their own, which an escape takes away. -/
def isMeta (c : Char) : Bool := "\\.+*?()|[]\x7b\x7d^$#&-~".toList.contains c

/-- Characters that stand for themselves after a backslash. -/
def isEscapable (c : Char) : Bool :=
  isMeta c || (isAscii c && !c.isAlphanum && c != '<' && c != '>')

/-- A letter, for the names of groups. -/
def isNameLetter (c : Char) : Bool :=
  if isAscii c then c.isAlpha else isWordChar c && !isDecimalDigit c

/-- A character of a group's name. -/
def isGroupNameChar (first : Bool) (c : Char) : Bool :=
  c == '_' || isNameLetter c
    || (!first && (c == '.' || c == '[' || c == ']' || isWordChar c))

/-- A code point, if it is that of a character. -/
def charOf? (n : Nat) : Option Char :=
  if n < 0xD800 || (0xDFFF < n && n < 0x110000) then some (Char.ofNat n) else none

/-- The value of hexadecimal digits. -/
def hexNumber? (digits : List Char) : Option Nat :=
  digits.foldlM (fun n c => (Json.hexValue? c).map (16 * n + ·)) 0

/-- A code point in hexadecimal: in braces, or of exactly `n` digits. -/
def readHex? (n : Nat) (text : List Char) : Option (Char × List Char) :=
  match text with
  | '\x7b' :: rest =>
    let digits := rest.takeWhile (· ≠ '\x7d')
    match rest.dropWhile (· ≠ '\x7d') with
    | [] => none
    | _ :: after =>
      if digits = [] || 8 < digits.length then none
      else (hexNumber? digits).bind fun n => (charOf? n).map (·, after)
  | _ =>
    if text.length < n then none
    else (hexNumber? (text.take n)).bind fun m => (charOf? m).map (·, text.drop n)

/-! ## Escapes -/

/-- A set under the flags in force. -/
def foldedSet (flags : Flags) (s : CharSet) : CharSet := if flags.anyCase then .anyCase s else s

/-- What an escape stands for. -/
inductive Escape
  | literal (c : Char)
  | set (s : CharSet)
  | look (l : Look)

/-- The class of a letter after a backslash. -/
def classOf (flags : Flags) (c : Char) : CharSet :=
  let u := flags.unicode
  match c with
  | 'd' => if u then .digit else .asciiDigit
  | 'D' => .compl (if u then .digit else .asciiDigit)
  | 's' => if u then .blank else .asciiBlank
  | 'S' => .compl (if u then .blank else .asciiBlank)
  | 'w' => if u then .word else .asciiWord
  | _ => .compl (if u then .word else .asciiWord)

/-- What stands in braces, after the opening one. -/
def readBraced? (flags : Flags) : Nat → List Char → Option (List Char × List Char)
  | 0, _ => none
  | fuel + 1, text =>
    match skip flags text with
    | [] => none
    | '\x7d' :: rest => some ([], rest)
    | c :: rest => (readBraced? flags fuel rest).map fun (inside, rest) => (c :: inside, rest)

/-- The set of a property, after the letter that asks for one: a name in braces, or of one
letter. -/
def readProperty? (flags : Flags) (text : List Char) : Option (CharSet × List Char) :=
  match skip flags text with
  | [] => none
  | '\\' :: _ => none
  | '\x7b' :: rest =>
    (readBraced? flags (rest.length + 1) rest).bind fun (inside, rest) =>
      (CharSet.ofProperty? inside).map fun s => (foldedSet flags s, rest)
  | c :: rest => (CharSet.ofProperty? [c]).map fun s => (foldedSet flags s, rest)

/-- A special word boundary in braces after `\b`: its condition and the rest, nothing when
the braces hold no name, or a refusal. -/
def readBoundary (text : List Char) : Option (Option (Look × List Char)) :=
  match text with
  | '\x7b' :: rest =>
    match rest with
    | [] => none
    | c :: _ =>
      if c.isAlpha || c == '-' then
        let name := rest.takeWhile fun c => c.isAlpha || c == '-'
        match rest.dropWhile fun c => c.isAlpha || c == '-' with
        | '\x7d' :: after =>
          match String.ofList name with
          | "start" => some (some (.wordStart, after))
          | "end" => some (some (.wordEnd, after))
          | "start-half" => some (some (.wordStartHalf, after))
          | "end-half" => some (some (.wordEndHalf, after))
          | _ => none
        | _ => none
      else some none
  | _ => some none

/-- An escape, after its backslash, and the rest. -/
def readEscape? (flags : Flags) (text : List Char) : Option (Escape × List Char) :=
  match text with
  | [] => none
  | c :: rest =>
    if c.isDigit then none
    else if c == 'x' then (readHex? 2 rest).map fun (c, rest) => (.literal c, rest)
    else if c == 'u' then (readHex? 4 rest).map fun (c, rest) => (.literal c, rest)
    else if c == 'U' then (readHex? 8 rest).map fun (c, rest) => (.literal c, rest)
    else if c == 'p' || c == 'P' then
      if !flags.unicode then none
      else
        (readProperty? flags rest).map fun (s, rest) =>
          (.set (if c == 'P' then .compl s else s), rest)
    else if "dDsSwW".toList.contains c then
      if !flags.unicode && c.isUpper then none else some (.set (classOf flags c), rest)
    else if isEscapable c then some (.literal c, rest)
    else
      match c with
      | 'a' => some (.literal '\x07', rest)
      | 'f' => some (.literal '\x0c', rest)
      | 't' => some (.literal '\t', rest)
      | 'n' => some (.literal '\n', rest)
      | 'r' => some (.literal '\r', rest)
      | 'v' => some (.literal '\x0b', rest)
      | 'A' => some (.look .startText, rest)
      | 'z' => some (.look .endText, rest)
      | 'B' => some (.look .noWordBoundary, rest)
      | '<' => some (.look .wordStart, rest)
      | '>' => some (.look .wordEnd, rest)
      | 'b' =>
        match readBoundary rest with
        | none => none
        | some none => some (.look .wordBoundary, rest)
        | some (some (l, rest)) => some (.look l, rest)
      | _ => none

/-! ## Classes -/

/-- How two sets inside square brackets are put together. -/
inductive SetOp
  | inter
  | diff
  | symmDiff

/-- An open pair of square brackets: whether the set is turned around, what stands left of
the last operator, and the items since. -/
structure OpenClass where
  negated : Bool
  pending : Option (SetOp × CharSet)
  items : CharSet
  /-- The levels of what stands left of the last operator. -/
  leftDepth : Nat := 0
  /-- The number of the items. -/
  count : Nat := 0
  /-- The levels of the deepest item. -/
  itemDepth : Nat := 0

/-- What the brackets hold so far. -/
def OpenClass.value (flags : Flags) (o : OpenClass) : CharSet :=
  match o.pending with
  | none => o.items
  | some (op, left) =>
    let left := foldedSet flags left
    let right := foldedSet flags o.items
    match op with
    | .inter => .inter left right
    | .diff => .diff left right
    | .symmDiff => .symmDiff left right

/-- The set of the brackets. -/
def OpenClass.close (flags : Flags) (o : OpenClass) : CharSet :=
  let s := foldedSet flags (o.value flags)
  if o.negated then .compl s else s

/-- The levels of what the brackets hold so far: two items or more are one level, and so is an
operator. -/
def OpenClass.depth (o : OpenClass) : Nat :=
  let right := if 1 < o.count then o.itemDepth + 1 else o.itemDepth
  if o.pending.isSome then max o.leftDepth right + 1 else right

/-- Adds a set of so many levels to the items. -/
def OpenClass.add (s : CharSet) (depth : Nat) (o : OpenClass) : OpenClass :=
  { o with items := .union o.items s, count := o.count + 1, itemDepth := max o.itemDepth depth }

/-- Goes on after an operator. -/
def OpenClass.apply (op : SetOp) (flags : Flags) (o : OpenClass) : OpenClass where
  negated := o.negated
  pending := some (op, o.value flags)
  items := .empty
  leftDepth := o.depth

/-- Drops hyphens at the start of a class and counts them. -/
def dropHyphens (flags : Flags) : Nat → Nat → List Char → Nat × List Char
  | 0, seen, text => (seen, text)
  | fuel + 1, seen, text =>
    match text with
    | '-' :: rest => dropHyphens flags fuel (seen + 1) (skip flags rest)
    | _ => (seen, text)

/-- Opens a class, after its bracket. -/
def openClass (flags : Flags) (text : List Char) : OpenClass × List Char :=
  let text := skip flags text
  let (negated, text) := match text with
    | '^' :: rest => (true, skip flags rest)
    | _ => (false, text)
  let (hyphens, text) := dropHyphens flags text.length 0 text
  let items := if hyphens = 0 then CharSet.empty else .single '-'
  let start : OpenClass := { negated, pending := none, items, count := hyphens }
  match hyphens, text with
  | 0, ']' :: rest => (start.add (.single ']') 0, skip flags rest)
  | _, _ => (start, text)

/-- A named set such as `[:alpha:]`, after its first bracket. -/
def readNamedSet? (text : List Char) : Option (CharSet × List Char) :=
  match text with
  | ':' :: rest =>
    let (negated, rest) := match rest with
      | '^' :: more => (true, more)
      | _ => (false, rest)
    match rest.dropWhile (· ≠ ':') with
    | ':' :: ']' :: after =>
      (CharSet.named? (rest.takeWhile (· ≠ ':'))).map fun s =>
        (if negated then .compl s else s, after)
    | _ => none
  | _ => none

/-- One member of a class: a character, or the set of an escape. -/
def readMember? (flags : Flags) (text : List Char) : Option (Escape × List Char) :=
  match text with
  | [] => none
  | '\\' :: rest => readEscape? flags rest
  | c :: rest => some (.literal c, rest)

/-- A member of a class or a range of characters. -/
def readRange? (flags : Flags) (text : List Char) : Option (CharSet × List Char) := do
  let (first, rest) ← readMember? flags text
  let rest := skip flags rest
  let isRange := match rest with
    | '-' :: after =>
      match skip flags after with
      | ']' :: _ => false
      | '-' :: _ => false
      | _ => true
    | _ => false
  if isRange then
    let (last, rest) ← readMember? flags (skip flags (rest.drop 1))
    match first, last with
    | .literal a, .literal b => if a ≤ b then some (.range a.toNat b.toNat, rest) else none
    | _, _ => none
  else
    match first with
    | .literal c => some (.single c, rest)
    | .set s => some (s, rest)
    | .look _ => none

/-- Reads a class to its last bracket, and counts its levels; the innermost open class comes
first. -/
def readClass? (flags : Flags) :
    Nat → List OpenClass → List Char → Option ((CharSet × Nat) × List Char)
  | 0, _, _ => none
  | _, [], _ => none
  | fuel + 1, top :: outer, text =>
    let operator (op : SetOp) (rest : List Char) :=
      readClass? flags fuel (top.apply op flags :: outer) rest
    match skip flags text with
    | [] => none
    | '[' :: rest =>
      match readNamedSet? rest with
      | some (s, after) => readClass? flags fuel (top.add s 0 :: outer) after
      | none =>
        let (inner, rest) := openClass flags rest
        readClass? flags fuel (inner :: top :: outer) rest
    | ']' :: rest =>
      match outer with
      | [] => some ((top.close flags, top.depth + 1), rest)
      | next :: outer =>
        readClass? flags fuel (next.add (top.close flags) (top.depth + 1) :: outer) rest
    | '&' :: '&' :: rest => operator .inter rest
    | '-' :: '-' :: rest => operator .diff rest
    | '~' :: '~' :: rest => operator .symmDiff rest
    | rest =>
      match readRange? flags rest with
      | some (s, after) => readClass? flags fuel (top.add s 0 :: outer) after
      | none => none

/-! ## Flags and counts -/

/-- Sets one flag. -/
def setFlag? (on : Bool) (c : Char) (flags : Flags) : Option Flags :=
  match c with
  | 'i' => some { flags with anyCase := on }
  | 'm' => some { flags with multiLine := on }
  | 's' => some { flags with dotAll := on }
  | 'u' => some { flags with unicode := on }
  | 'x' => some { flags with verbose := on }
  | 'R' => some { flags with carriage := on }
  | 'U' => some flags
  | _ => none

/-- Flags up to a colon or a parenthesis; none may be given twice, and a hyphen turns those
after it off. -/
def readFlags? (on : Bool) (dangling : Bool) (seen : List Char) :
    Flags → List Char → Option (Flags × List Char)
  | _, [] => none
  | flags, c :: rest =>
    if c == ':' || c == ')' then if dangling then none else some (flags, c :: rest)
    else if c == '-' then if on then readFlags? false true seen flags rest else none
    else if seen.contains c then none
    else (setFlag? on c flags).bind fun flags => readFlags? on false (c :: seen) flags rest

/-- A decimal number of 32 bits with white space around it. -/
def readCount? (text : List Char) : Option (Nat × List Char) :=
  match Decimal.spanDigits (trimStart text) with
  | ([], _) => none
  | (ds, rest) =>
    if Decimal.digitsValue ds < UInt32.size then some (Decimal.digitsValue ds, trimStart rest) else none

/-- The bounds of a repetition in braces, after the opening one. -/
def readBounds? (text : List Char) : Option ((Nat × Option Nat) × List Char) := do
  let (min, rest) ← readCount? text
  match rest with
  | '\x7d' :: rest => some ((min, some min), rest)
  | ',' :: rest =>
    match rest with
    | '\x7d' :: rest => some ((min, none), rest)
    | _ =>
      let (max, rest) ← readCount? rest
      match rest with
      | '\x7d' :: rest => if min ≤ max then some ((min, some max), rest) else none
      | _ => none
  | _ => none

/-! ## Sequences and groups -/

/-- The deepest that parts of a pattern may be nested. -/
def nestLimit : Nat := 250

/-- A part of a pattern, and how many levels it has. -/
structure Part where
  /-- Nothing stands for a change of flags, which cannot be repeated. -/
  pattern : Option Pattern
  depth : Nat

/-- The levels of parts side by side: two or more of them are one level. -/
def depthOf (parts : List Part) : Nat :=
  let deepest := parts.foldl (fun depth part => max depth part.depth) 0
  if 1 < parts.length then deepest + 1 else deepest

/-- A group whose inside is being read. -/
structure OpenGroup where
  /-- The flags in force after it. -/
  outside : Flags
  /-- The branches before the current one, last one first. -/
  branches : List Part
  /-- The items of the current branch, last one first. -/
  items : List Part

/-- The items of a branch in order. -/
def branchOf (items : List Part) : Pattern :=
  items.foldl (fun tail item => match item.pattern with
    | some p => match tail with
      | .empty => p
      | _ => .seq p tail
    | none => tail) .empty

/-- The current branch of a group. -/
def OpenGroup.branch (g : OpenGroup) : Part := ⟨some (branchOf g.items), depthOf g.items⟩

/-- The pattern of a group's inside. -/
def OpenGroup.close (g : OpenGroup) : Pattern :=
  g.branches.foldl (fun tail branch => .alt (branch.pattern.getD .empty) tail) (branchOf g.items)

/-- The levels of a group's inside. -/
def OpenGroup.depth (g : OpenGroup) : Nat := depthOf (g.branch :: g.branches)

/-- The group with one more item. -/
def OpenGroup.add (item : Option Pattern) (depth : Nat) (g : OpenGroup) : OpenGroup :=
  { g with items := ⟨item, depth⟩ :: g.items }

/-- Repeats the last item of the group, unless there is none. -/
def OpenGroup.repeated? (min : Nat) (max : Option Nat) (g : OpenGroup) : Option OpenGroup :=
  match g.items with
  | ⟨some p, depth⟩ :: items =>
    some { g with items := ⟨some (.rep p min max), depth + 1⟩ :: items }
  | _ => none

/-- Drops the question mark of a repetition that takes as little as it can; where a match
ends does not matter here. -/
def dropLazy (text : List Char) : List Char :=
  match text with
  | '?' :: rest => rest
  | _ => text

/-- One character under the flags in force. -/
def literal (flags : Flags) (c : Char) : Pattern := .one (foldedSet flags (.single c))

/-- What `.` matches. -/
def dot (flags : Flags) : CharSet :=
  if flags.dotAll then .compl .empty
  else if flags.carriage then .compl (.union (.single '\r') (.single '\n'))
  else .compl (.single '\n')

/-- What `^` asks for. -/
def caret (flags : Flags) : Look :=
  if flags.multiLine then if flags.carriage then .startLineCR else .startLine else .startText

/-- What `$` asks for. -/
def dollar (flags : Flags) : Look :=
  if flags.multiLine then if flags.carriage then .endLineCR else .endLine else .endText

/-- What comes after the parenthesis that opens a group. -/
inductive GroupStart
  | group (inside : Flags) (name : Option (List Char)) (rest : List Char)
  | change (flags : Flags) (rest : List Char)

/-- The name of a group, up to its angle bracket. -/
def readGroupName? (text : List Char) : Option (List Char × List Char) :=
  match text.takeWhile (· ≠ '>'), text.dropWhile (· ≠ '>') with
  | c :: name, _ :: rest =>
    if isGroupNameChar true c && name.all (isGroupNameChar false) then some (c :: name, rest)
    else none
  | _, _ => none

/-- Reads what comes after the parenthesis that opens a group. -/
def readGroupStart? (flags : Flags) (text : List Char) : Option GroupStart :=
  match skip flags text with
  | '?' :: 'P' :: '<' :: rest =>
    (readGroupName? rest).map fun (name, rest) => .group flags (some name) rest
  | '?' :: '=' :: _ => none
  | '?' :: '!' :: _ => none
  | '?' :: '<' :: '=' :: _ => none
  | '?' :: '<' :: '!' :: _ => none
  | '?' :: '<' :: rest =>
    (readGroupName? rest).map fun (name, rest) => .group flags (some name) rest
  | '?' :: rest =>
    match readFlags? true false [] flags rest with
    | some (inside, ':' :: after) => some (.group inside none after)
    | some (changed, ')' :: after) =>
      if rest.head? = some ')' then none else some (.change changed after)
    | _ => none
  | rest => some (.group flags none rest)

/-- Reads a pattern and counts its levels; the innermost open group comes first, and `names` are
those of the groups so far. -/
def readPattern? :
    Nat → Flags → List (List Char) → List OpenGroup → List Char → Option (Pattern × Nat)
  | 0, _, _, _, _ => none
  | _, _, _, [], _ => none
  | fuel + 1, flags, names, g :: outer, text =>
    let item (p : Pattern) (depth : Nat) (rest : List Char) :=
      readPattern? fuel flags names (g.add (some p) depth :: outer) rest
    let repeated (min : Nat) (max : Option Nat) (rest : List Char) :=
      (g.repeated? min max).bind fun g => readPattern? fuel flags names (g :: outer) (dropLazy rest)
    match skip flags text with
    | [] =>
      match outer with
      | [] => some (g.close, g.depth)
      | _ => none
    | '(' :: rest =>
      match readGroupStart? flags rest with
      | none => none
      | some (.change changed rest) =>
        readPattern? fuel changed names (g.add none 0 :: outer) rest
      | some (.group inside name rest) =>
        match name with
        | none => readPattern? fuel inside names (⟨flags, [], []⟩ :: g :: outer) rest
        | some name =>
          if names.contains name then none
          else readPattern? fuel inside (name :: names) (⟨flags, [], []⟩ :: g :: outer) rest
    | ')' :: rest =>
      match outer with
      | [] => none
      | next :: outer =>
        readPattern? fuel g.outside names (next.add (some g.close) (g.depth + 1) :: outer) rest
    | '|' :: rest =>
      readPattern? fuel flags names (⟨g.outside, g.branch :: g.branches, []⟩ :: outer) rest
    | '[' :: rest =>
      let (first, inside) := openClass flags rest
      match readClass? flags (inside.length + 1) [first] inside with
      | none => none
      | some ((s, depth), rest) =>
        if !flags.unicode && first.negated then none else item (.one s) depth rest
    | '?' :: rest => repeated 0 (some 1) rest
    | '*' :: rest => repeated 0 none rest
    | '+' :: rest => repeated 1 none rest
    | '\x7b' :: rest =>
      match g.items.head?, readBounds? rest with
      | some ⟨some _, _⟩, some ((min, max), rest) => repeated min max rest
      | _, _ => none
    | '\\' :: rest =>
      match readEscape? flags rest with
      | none => none
      | some (.literal c, rest) => item (literal flags c) 0 rest
      | some (.set s, rest) => item (.one s) 0 rest
      | some (.look l, rest) => item (.look l) 0 rest
    | '.' :: rest => if flags.unicode then item (.one (dot flags)) 0 rest else none
    | '^' :: rest => item (.look (caret flags)) 0 rest
    | '$' :: rest => item (.look (dollar flags)) 0 rest
    | c :: rest => item (literal flags c) 0 rest

/-- The pattern of a text, unless it is none, is nested too deep or takes too much room. -/
def parse? (text : String) : Option Pattern :=
  match readPattern? (text.toList.length + 1) {} [] [⟨{}, [], []⟩] text.toList with
  | some (p, depth) => if depth ≤ nestLimit && p.weight ≤ weightLimit then some p else none
  | none => none

/-- The engine that the program runs with. It refuses a property of characters that it has no table
for. -/
instance : PatternEngine where
  read? text := (parse? text).map isMatch

end ValidatorGen.Pattern
