/-
How floats are written. The digits are those of `Binary.shortest`; a `Style` says where
the point stands, when an exponent is written and how, and what marks a whole number.
Two styles are in use: `plain`, for numbers inside expressions, and `stored`, for numbers
in stored documents.
-/
import ValidatorGen.Decimal.Shortest

namespace ValidatorGen.Decimal

/-- The choices that a way of writing floats makes. -/
structure Style where
  /-- Leading exponents from and up to which no exponent is written; all, when absent. -/
  positional : Option (Int × Int)
  /-- What ends a whole number. -/
  wholeMark : List Char
  /-- What stands before an exponent that is not negative. -/
  exponentSign : List Char
  /-- Which of two equally near decimals is written. -/
  tie : Tie

/-- Every digit is written out and nothing marks a whole number: `5`, `0.1`, `1000000`. -/
def Style.plain : Style := ⟨none, [], [], .up⟩

/-- Whole numbers end in `.0`; outside of `10^-5 … 10^15` an exponent with its sign is
written: `5.0`, `0.00001`, `1e+16`, `2.5e-10`. -/
def Style.stored : Style := ⟨some (-5, 15), ['.', '0'], ['+'], .even⟩

/-- Digits written out around the point, the first of them at `10^e`. -/
def positionalChars (wholeMark digits : List Char) (e : Int) : List Char :=
  if e < 0 then ['0', '.'] ++ List.replicate ((-e).toNat - 1) '0' ++ digits
  else if digits.length ≤ e.toNat + 1 then
    digits ++ List.replicate (e.toNat + 1 - digits.length) '0' ++ wholeMark
  else digits.take (e.toNat + 1) ++ ['.'] ++ digits.drop (e.toNat + 1)

/-- An integer in decimal. -/
def intChars : Int → List Char
  | .ofNat n => Nat.toDigits 10 n
  | .negSucc n => '-' :: Nat.toDigits 10 (n + 1)

/-- Digits with one before the point, and the exponent of ten. -/
def exponentChars (sign digits : List Char) (e : Int) : List Char :=
  let mantissa :=
    match digits with
    | [] => []
    | [d] => [d]
    | d :: more => d :: '.' :: more
  mantissa ++ ['e'] ++ (if e < 0 then intChars e else sign ++ intChars e)

/-- A decimal that is not negative, written in a style. -/
def Scientific.chars (style : Style) (d : Scientific) : List Char :=
  let digits := Nat.toDigits 10 d.significand
  let e := d.scale + digits.length - 1
  match style.positional with
  | none => positionalChars style.wholeMark digits e
  | some (low, high) =>
    if low ≤ e && e ≤ high then positionalChars style.wholeMark digits e
    else exponentChars style.exponentSign digits e

/-- A float written in a style; the two infinities and the value that is no number have
names. -/
def floatChars (style : Style) (f : Float) : List Char :=
  let (negative, exponent, fraction) := fields f.toBits
  let sign := if negative then ['-'] else []
  if exponent = 2047 then
    if fraction = 0 then sign ++ ['i', 'n', 'f'] else ['N', 'a', 'N']
  else if exponent = 0 && fraction = 0 then sign ++ Scientific.chars style ⟨0, 0⟩
  else sign ++ ((Binary.ofFields exponent fraction).shortest style.tie).chars style

/-- A float as it stands inside an expression. -/
def plainText (f : Float) : String := String.ofList (floatChars .plain f)

/-- A float as it stands in a stored document. -/
def storedText (f : Float) : String := String.ofList (floatChars .stored f)

end ValidatorGen.Decimal
