/-
Numbers read from words. A natural number is decimal digits, perhaps after a plus sign,
and fits 32 bits. A float is digits with an optional point among them (at least one digit
in all) and an optional exponent, or one of the names `inf`, `infinity` and `nan` in any
letter case, either after an optional sign; the nearest float is taken.
-/
namespace ValidatorGen.Decimal

/-- The digits at the start of the text, and the rest. -/
def spanDigits (text : List Char) : List Char × List Char :=
  (text.takeWhile Char.isDigit, text.dropWhile Char.isDigit)

/-- The value of decimal digits. -/
def digitsValue (digits : List Char) : Nat := Nat.ofDigitChars 10 digits 0

/-- A number of at most 32 bits, in digits alone or after a plus sign. -/
def readUInt32? (word : List Char) : Option UInt32 :=
  let digits := match word with
    | '+' :: rest => rest
    | _ => word
  if digits ≠ [] && digits.all Char.isDigit && digitsValue digits < UInt32.size then
    some (UInt32.ofNat (digitsValue digits))
  else none

/-- Exponent of ten: an optional sign and digits, to the end of the text. -/
def readExponent? (text : List Char) : Option Int :=
  let value (digits : List Char) : Option Int :=
    if digits ≠ [] && digits.all Char.isDigit then some (digitsValue digits) else none
  match text with
  | '+' :: digits => value digits
  | '-' :: digits => (value digits).map (- ·)
  | digits => value digits

/-- `significand · 10^scale` as the nearest float, far exponents cut short. -/
def nearestFloat (significand : Nat) (scale : Int) : Float :=
  let top := scale + (Nat.toDigits 10 significand).length
  if significand = 0 || top < -400 then 0.0
  else if 400 < top then 1.0 / 0.0
  else Float.ofScientific significand (scale < 0) scale.natAbs

/-- Digits, an optional point among them, and an optional exponent. -/
def readUnsignedFloat? (word : List Char) : Option Float :=
  let (whole, rest) := spanDigits word
  let (fraction, rest) := match rest with
    | '.' :: more => spanDigits more
    | _ => ([], rest)
  let exponent? := match rest with
    | [] => some 0
    | 'e' :: more => readExponent? more
    | 'E' :: more => readExponent? more
    | _ => none
  if whole = [] && fraction = [] then none
  else exponent?.map fun e => nearestFloat (digitsValue (whole ++ fraction)) (e - fraction.length)

/-- A float without its sign. -/
def readMagnitude? (word : List Char) : Option Float :=
  let lower := word.map Char.toLower
  if lower = ['i', 'n', 'f'] || lower = ['i', 'n', 'f', 'i', 'n', 'i', 't', 'y'] then
    some (1.0 / 0.0)
  else if lower = ['n', 'a', 'n'] then some (0.0 / 0.0)
  else readUnsignedFloat? word

/-- A float, after an optional sign. -/
def readFloat? (word : List Char) : Option Float :=
  match word with
  | '+' :: rest => readMagnitude? rest
  | '-' :: rest => (readMagnitude? rest).map (- ·)
  | _ => readMagnitude? word

/-- A float that is a whole number within 32 bits, as that number: cutting it down to one
loses nothing. -/
def wholeUInt32? (f : Float) : Option UInt32 :=
  if f.toUInt32.toFloat == f then some f.toUInt32 else none

end ValidatorGen.Decimal
