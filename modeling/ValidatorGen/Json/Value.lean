/-
Values that are written as documents, and the two ways of writing them: `compact`, with
nothing between the tokens, and `pretty`, with one item a line and two spaces an
indentation step. Both are one printer over a `Layout`, which says what stands around
items and after a colon.
-/
import ValidatorGen.Decimal.Layout

namespace ValidatorGen.Json

/-- What a document can hold. The fields of a record keep their order. -/
inductive Value
  | null
  | bool (b : Bool)
  | int (n : Int)
  | float (f : Float)
  | text (s : String)
  | list (items : List Value)
  | record (fields : List (String × Value))
  deriving Inhabited

/-- What stands between the tokens of a document. -/
structure Layout where
  /-- Before an item, and before the closing bracket, at the given depth. -/
  gap : Nat → List Char
  /-- Between a colon and the value after it. -/
  afterColon : List Char

/-- Nothing between the tokens. -/
def Layout.compact : Layout := ⟨fun _ => [], []⟩

/-- One item a line. -/
def Layout.pretty : Layout := ⟨fun depth => '\n' :: List.replicate (2 * depth) ' ', [' ']⟩

/-- A hexadecimal digit, lower case. -/
def hexDigit (n : Nat) : Char := n.digitChar

/-- One character inside a string: quotes, backslashes and control characters are escaped. -/
def escapedChar (c : Char) : List Char :=
  if c == '"' then ['\\', '"']
  else if c == '\\' then ['\\', '\\']
  else if c == '\x08' then ['\\', 'b']
  else if c == '\x0c' then ['\\', 'f']
  else if c == '\n' then ['\\', 'n']
  else if c == '\r' then ['\\', 'r']
  else if c == '\t' then ['\\', 't']
  else if c.toNat < 0x20 then
    ['\\', 'u', '0', '0', hexDigit (c.toNat / 16), hexDigit (c.toNat % 16)]
  else [c]

/-- A string with its quotes. -/
def stringChars (s : String) : List Char :=
  '"' :: (s.toList.flatMap escapedChar ++ ['"'])

/-- A float as a document holds it: infinities and what is no number have no spelling, and
`null` stands for them. -/
def floatLiteral (f : Float) : List Char :=
  if f.isFinite then Decimal.floatChars .stored f else ['n', 'u', 'l', 'l']

mutual

/-- A value at the given depth. -/
def Value.chars (layout : Layout) (depth : Nat) : Value → List Char
  | .null => ['n', 'u', 'l', 'l']
  | .bool true => ['t', 'r', 'u', 'e']
  | .bool false => ['f', 'a', 'l', 's', 'e']
  | .int n => Decimal.intChars n
  | .float f => floatLiteral f
  | .text s => stringChars s
  | .list [] => ['[', ']']
  | .list (v :: vs) =>
    '[' :: (layout.gap (depth + 1) ++ (v.chars layout (depth + 1)
      ++ (itemsChars layout (depth + 1) vs ++ (layout.gap depth ++ [']']))))
  | .record [] => ['\x7b', '\x7d']
  | .record ((k, v) :: fs) =>
    '\x7b' :: (layout.gap (depth + 1) ++ (stringChars k ++ (':' :: (layout.afterColon
      ++ (v.chars layout (depth + 1)
      ++ (fieldsChars layout (depth + 1) fs ++ (layout.gap depth ++ ['\x7d'])))))))

/-- The items after the first, each after a comma. -/
def itemsChars (layout : Layout) (depth : Nat) : List Value → List Char
  | [] => []
  | v :: vs => ',' :: (layout.gap depth ++ (v.chars layout depth ++ itemsChars layout depth vs))

/-- The fields after the first, each after a comma. -/
def fieldsChars (layout : Layout) (depth : Nat) : List (String × Value) → List Char
  | [] => []
  | (k, v) :: fs =>
    ',' :: (layout.gap depth ++ (stringChars k ++ (':' :: (layout.afterColon
      ++ (v.chars layout depth ++ fieldsChars layout depth fs)))))

end

/-- The document of a value on one line. -/
def Value.compact (v : Value) : String := String.ofList (v.chars .compact 0)

/-- The document of a value with one item a line. -/
def Value.pretty (v : Value) : String := String.ofList (v.chars .pretty 0)

/-- An absent value is `null`. -/
def Value.ofOption (encode : α → Value) : Option α → Value
  | none => .null
  | some a => encode a

end ValidatorGen.Json
