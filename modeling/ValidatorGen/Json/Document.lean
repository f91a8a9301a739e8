/-
Documents as they are read. A document is read as far as its text goes: where the text
breaks off or breaks the rules, the tree holds a cut instead of a value, and whoever
walks the tree in order meets the first fault of the text exactly where a reader of the
stream would. What a cut means depends on what is wanted there, so it records the fault
for each of the three kinds of reader.
-/
import ValidatorGen.Json.Numeral
import ValidatorGen.Json.Value

namespace ValidatorGen.Json

/-- A place where no value could be read. -/
structure Cut where
  /-- What a reader meets that wants the value. -/
  wanted : Fault
  /-- What a reader meets that passes over the value. -/
  skipped : Fault
  /-- What a reader meets that wants a label. -/
  label : Fault
  deriving DecidableEq, Repr

/-- A cut that is the same to every reader. -/
def Cut.plain (f : Fault) : Cut := ⟨f, f, f⟩

/-- The kind of a value, as messages name it. -/
inductive Shape
  | null
  | bool (b : Bool)
  | integer (n : Int)
  | float (f : Float)
  | text (s : String)
  | sequence
  | map

/-- How a list or a record ends. -/
inductive Ending
  | closed
  | cut (c : Cut)
  /-- Where a key should stand there is a value of another shape. -/
  | oddKey (found : Except Fault Shape)

/-- A document as read. A number is absent when it is out of range, a string when one of
its escapes names no character. -/
inductive Document
  | null
  | bool (b : Bool)
  | number (n : Option Number)
  | text (s : Option String)
  | list (items : List Document) (ending : Ending)
  | record (fields : List (Option String × Document)) (ending : Ending)
  | cut (c : Cut)

/-! ## Tokens -/

/-- A character that may stand between tokens. -/
def isSpace (c : Char) : Bool := c == ' ' || c == '\n' || c == '\t' || c == '\r'

/-- The text without the spaces at its start. -/
def skipSpace (text : List Char) : List Char := text.dropWhile isSpace

/-- Drops the letters of a name that must come next. -/
def scanName : List Char → List Char → Except Fault (List Char)
  | [], text => .ok text
  | _ :: _, [] => .error .truncated
  | w :: name, c :: text => if w == c then scanName name text else .error .malformed

/-- The value of a hexadecimal digit. -/
def hexValue? (c : Char) : Option Nat :=
  if c.isDigit then some (c.toNat - '0'.toNat)
  else if 'a' ≤ c && c ≤ 'f' then some (c.toNat - 'a'.toNat + 10)
  else if 'A' ≤ c && c ≤ 'F' then some (c.toNat - 'A'.toNat + 10)
  else none

/-- The four hexadecimal digits of an escape. Four bytes have to be left, whatever they
are, for the escape not to be cut off. -/
def scanHex4 (text : List Char) : Except Fault (Nat × List Char) :=
  match text with
  | a :: b :: c :: d :: rest =>
    match hexValue? a, hexValue? b, hexValue? c, hexValue? d with
    | some a, some b, some c, some d => .ok (((a * 16 + b) * 16 + c) * 16 + d, rest)
    | _, _, _, _ => .error .malformed
  | _ => if (String.ofList text).utf8ByteSize < 4 then .error .truncated else .error .malformed

/-- The character of an escape of one letter. -/
def escape? (c : Char) : Option Char :=
  if c == '"' || c == '\\' || c == '/' then some c
  else if c == 'b' then some '\x08'
  else if c == 'f' then some '\x0c'
  else if c == 'n' then some '\n'
  else if c == 'r' then some '\r'
  else if c == 't' then some '\t'
  else none

/-- What comes after a first half of a surrogate pair: the code unit of the second half and
the text after it, or why there is none. -/
def scanSecondHalf (text : List Char) : Except Fault (Nat × List Char) :=
  match text with
  | [] => .error .truncated
  | ['\\'] => .error .truncated
  | '\\' :: 'u' :: rest => scanHex4 rest
  | _ => .error .malformed

/-- A string after its opening quote, as far as it goes. The characters are absent once an
escape names none, and `pair` holds the first half of a surrogate pair that waits for the
second. -/
def scanString : Nat → List Char → Except Cut (Option (List Char) × List Char)
  | 0, _ => .error (.plain .malformed)
  | fuel + 1, text =>
    let prepend (cs : List Char) (rest : List Char) :=
      (scanString fuel rest).map fun (s, rest) => (s.map (cs ++ ·), rest)
    -- an escape that names no character: the value is lost, the string goes on
    let lose (rest : List Char) :=
      match scanString fuel rest with
      | .ok (_, rest) => .ok (none, rest)
      | .error c => .error ⟨.malformed, c.skipped, .malformed⟩
    match text with
    | [] => .error (.plain .truncated)
    | '"' :: rest => .ok (some [], rest)
    | ['\\'] => .error (.plain .truncated)
    | '\\' :: 'u' :: rest =>
      match scanHex4 rest with
      | .error f => .error (.plain f)
      | .ok (unit, rest) =>
        if 0xD800 ≤ unit && unit < 0xDC00 then
          match scanSecondHalf rest with
          | .error .truncated => .error (.plain .truncated)
          | .error .malformed => lose rest
          | .ok (second, after) =>
            if 0xDC00 ≤ second && second < 0xE000 then
              prepend [Char.ofNat (0x10000 + (unit - 0xD800) * 0x400 + (second - 0xDC00))] after
            else lose rest
        else if 0xDC00 ≤ unit && unit < 0xE000 then lose rest
        else prepend [Char.ofNat unit] rest
    | '\\' :: c :: rest =>
      match escape? c with
      | some d => prepend [d] rest
      | none => .error (.plain .malformed)
    | c :: rest => if c.toNat < 0x20 then .error (.plain .malformed) else prepend [c] rest

/-- A string after its opening quote. -/
def readString (text : List Char) : Except Cut (Option String × List Char) :=
  (scanString (text.length + 1) text).map fun (s, rest) => (s.map String.ofList, rest)

/-! ## Trees -/

/-- A name with a fixed value. -/
def readName (name : List Char) (value : Document) (text : List Char) : Document × List Char :=
  match scanName name text with
  | .ok rest => (value, rest)
  | .error f => (.cut ⟨f, f, .malformed⟩, [])

/-- A number. -/
def readNumber (text : List Char) : Document × List Char :=
  match scanNumeral text with
  | .ok (n, rest) => (.number n.value?, rest)
  | .error f => (.cut ⟨f, .malformed, .malformed⟩, [])

/-- The shape of a number, when it is in range. -/
def Number.shape : Number → Shape
  | .natural n => .integer n
  | .negative n => .integer n
  | .float f => .float f

/-- The shape of a value, or the fault that is met on the way to it. -/
def Document.shape : Document → Except Fault Shape
  | .null => .ok .null
  | .bool b => .ok (.bool b)
  | .number (some v) => .ok v.shape
  | .number none => .error .malformed
  | .text (some s) => .ok (.text s)
  | .text none => .error .malformed
  | .list _ _ => .ok .sequence
  | .record _ _ => .ok .map
  | .cut c => .error c.wanted

mutual

/-- A value, after any spaces, and the text after it. -/
def readValue : Nat → List Char → Document × List Char
  | 0, _ => (.cut (.plain .malformed), [])
  | fuel + 1, text =>
    match skipSpace text with
    | [] => (.cut (.plain .truncated), [])
    | 'n' :: rest => readName ['u', 'l', 'l'] .null rest
    | 't' :: rest => readName ['r', 'u', 'e'] (.bool true) rest
    | 'f' :: rest => readName ['a', 'l', 's', 'e'] (.bool false) rest
    | '"' :: rest =>
      match readString rest with
      | .ok (s, rest) => (.text s, rest)
      | .error c => (.cut c, [])
    | '[' :: rest =>
      let (items, ending, rest) := readItems fuel true rest
      (.list items ending, rest)
    | '\x7b' :: rest =>
      let (fields, ending, rest) := readFields fuel true rest
      (.record fields ending, rest)
    | c :: rest =>
      if c == '-' || c.isDigit then readNumber (c :: rest) else (.cut (.plain .malformed), [])

/-- The items of a list up to its bracket; each but the first after a comma. -/
def readItems : Nat → Bool → List Char → List Document × Ending × List Char
  | 0, _, _ => ([], .cut (.plain .malformed), [])
  | fuel + 1, first, text =>
    match skipSpace text with
    | [] => ([], .cut (.plain .truncated), [])
    | ']' :: rest => ([], .closed, rest)
    | c :: rest =>
      if first || c == ',' then
        match readValue fuel (if first then c :: rest else rest) with
        | (.cut c, _) => ([.cut c], .cut c, [])
        | (item, rest) =>
          let (items, ending, rest) := readItems fuel false rest
          (item :: items, ending, rest)
      else ([], .cut (.plain .malformed), [])

/-- The fields of a record up to its brace; each but the first after a comma. -/
def readFields : Nat → Bool → List Char → List (Option String × Document) × Ending × List Char
  | 0, _, _ => ([], .cut (.plain .malformed), [])
  | fuel + 1, first, text =>
    match skipSpace text with
    | [] => ([], .cut (.plain .truncated), [])
    | '\x7d' :: rest => ([], .closed, rest)
    | c :: rest =>
      if first || c == ',' then
        match skipSpace (if first then c :: rest else rest) with
        | [] => ([], .cut (.plain .truncated), [])
        | '"' :: rest =>
          match readString rest with
          | .error c => ([], .cut c, [])
          | .ok (key, rest) =>
            match skipSpace rest with
            | [] => ([(key, .cut (.plain .truncated))], .cut (.plain .truncated), [])
            | ':' :: rest =>
              match readValue fuel rest with
              | (.cut c, _) => ([(key, .cut c)], .cut c, [])
              | (value, rest) =>
                let (fields, ending, rest) := readFields fuel false rest
                ((key, value) :: fields, ending, rest)
            | _ => ([(key, .cut (.plain .malformed))], .cut (.plain .malformed), [])
        | other =>
          if first then ([], .oddKey (readValue fuel other).1.shape, [])
          else ([], .cut (.plain .malformed), [])
      else ([], .cut (.plain .malformed), [])

end

/-- A whole text: the value it starts with, and whether nothing but spaces follows. -/
def Document.read (text : List Char) : Document × Bool :=
  let (value, rest) := readValue (2 * text.length + 2) text
  (value, skipSpace rest == [])

/-! ## Walks -/

/-- The fault of an ending, to one who passes over the value. -/
def Ending.skipFault? : Ending → Option Fault
  | .closed => none
  | .cut c => some c.skipped
  | .oddKey _ => some .malformed

/-- The fault of an ending, to one who wants the value. -/
def Ending.fault? : Ending → Option Fault
  | .closed => none
  | .cut c => some c.wanted
  | .oddKey _ => some .malformed

mutual

/-- The first fault on the way past a value that nobody wants. -/
def Document.skipFault? : Document → Option Fault
  | .cut c => some c.skipped
  | .list items ending => (itemsSkipFault? items).or ending.skipFault?
  | .record fields ending => (fieldsSkipFault? fields).or ending.skipFault?
  | _ => none

/-- The first fault on the way past some items. -/
def itemsSkipFault? : List Document → Option Fault
  | [] => none
  | d :: ds => d.skipFault?.or (itemsSkipFault? ds)

/-- The first fault on the way past some fields. -/
def fieldsSkipFault? : List (Option String × Document) → Option Fault
  | [] => none
  | (_, d) :: ds => d.skipFault?.or (fieldsSkipFault? ds)

end

mutual

/-- The first fault of a value that is wanted whole, with room for so many levels. -/
def Document.fault? (room : Nat) : Document → Option Fault
  | .cut c => some c.wanted
  | .number none => some .malformed
  | .text none => some .malformed
  | .list items ending =>
    match room with
    | 0 => some .malformed
    | room + 1 => (itemsFault? room items).or ending.fault?
  | .record fields ending =>
    match room with
    | 0 => some .malformed
    | room + 1 => (fieldsFault? room fields).or ending.fault?
  | _ => none

/-- The first fault of some items. -/
def itemsFault? (room : Nat) : List Document → Option Fault
  | [] => none
  | d :: ds => (d.fault? room).or (itemsFault? room ds)

/-- The first fault of some fields, keys included. -/
def fieldsFault? (room : Nat) : List (Option String × Document) → Option Fault
  | [] => none
  | (none, _) :: _ => some .malformed
  | (some _, d) :: ds => (d.fault? room).or (fieldsFault? room ds)

end

mutual

/-- The document of a value that is at hand. -/
def Value.document : Value → Document
  | .null => .null
  | .bool b => .bool b
  | .int (.ofNat n) => .number (some (.natural n))
  | .int (.negSucc n) => .number (some (.negative (.negSucc n)))
  | .float f => if f.isFinite then .number (some (.float f)) else .null
  | .text s => .text (some s)
  | .list items => .list (itemsDocument items) .closed
  | .record fields => .record (fieldsDocument fields) .closed

/-- The documents of some values. -/
def itemsDocument : List Value → List Document
  | [] => []
  | v :: vs => v.document :: itemsDocument vs

/-- The documents of some fields. -/
def fieldsDocument : List (String × Value) → List (Option String × Document)
  | [] => []
  | (k, v) :: fs => (some k, v.document) :: fieldsDocument fs

end

end ValidatorGen.Json
