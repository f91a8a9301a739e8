/-
Numbers, dates and times of TOML. Digits may have single underscores between them; a
decimal number has no leading zero; integers fit 64 bits with a sign, floats are in range.
-/
import ValidatorGen.Toml.Text

namespace ValidatorGen.Toml

/-! ## Numbers -/

/-- More digits, each perhaps after an underscore: the digits, and the rest. -/
def scanMoreDigits (p : Char → Bool) : List Char → List Char × List Char
  | [] => ([], [])
  | [c] => if p c then ([c], []) else ([], [c])
  | c :: d :: rest =>
    if p c then
      let (ds, rest) := scanMoreDigits p (d :: rest)
      (c :: ds, rest)
    else if c = '_' && p d then
      let (ds, rest) := scanMoreDigits p (d :: rest)
      (ds, rest)
    else ([], c :: d :: rest)

/-- One digit or more. -/
def scanDigits? (p : Char → Bool) : List Char → Option (List Char × List Char)
  | [] => none
  | c :: rest =>
    if p c then
      let (ds, rest) := scanMoreDigits p rest
      some (c :: ds, rest)
    else none

/-- A sign, if there is one: whether it is a minus, and the rest. -/
def scanSign : List Char → Bool × List Char
  | '-' :: rest => (true, rest)
  | '+' :: rest => (false, rest)
  | text => (false, text)

/-- The whole part of a decimal number, without its sign. -/
def scanWhole? : List Char → Option (List Char × List Char)
  | '0' :: rest => some (['0'], rest)
  | text => scanDigits? Char.isDigit text

/-- An exponent with its mark, as it is written without underscores. -/
def scanExponent? : List Char → Option (List Char × List Char)
  | c :: rest =>
    if c = 'e' || c = 'E' then
      let (negative, digits) := scanSign rest
      (scanDigits? Char.isDigit digits).map fun (ds, rest) =>
        ('e' :: (if negative then '-' :: ds else ds), rest)
    else none
  | [] => none

/-- A fraction with its point. -/
def scanFraction? : List Char → Option (List Char × List Char)
  | '.' :: rest => (scanDigits? Char.isDigit rest).map fun (ds, rest) => ('.' :: ds, rest)
  | _ => none

/-- What makes a decimal number a float: a fraction, an exponent, or both. -/
def scanFloatTail? (text : List Char) : Option (List Char × List Char) :=
  match scanFraction? text with
  | some (fraction, rest) =>
    match scanExponent? rest with
    | some (exponent, rest) => some (fraction ++ exponent, rest)
    | none => some (fraction, rest)
  | none => scanExponent? text

/-- The float of a text in decimal digits, when it is in range. -/
def finite? (negative : Bool) (digits : List Char) : Option Json.Number :=
  (Decimal.readFloat? digits).bind fun f =>
    if f.isInf then none else some (.float (if negative then -f else f))

/-- A name of a float that has no digits. -/
def scanNamedFloat? (text : List Char) : Option (List Char) :=
  match text with
  | 'i' :: 'n' :: 'f' :: rest => some rest
  | 'n' :: 'a' :: 'n' :: rest => some rest
  | _ => none

/-- A float; one without digits counts as a float whatever it is. -/
def readFloat? (text : List Char) : Option (Json.Number × List Char) :=
  let (negative, unsigned) := scanSign text
  match scanNamedFloat? unsigned with
  | some rest => some (.float (0.0 / 0.0), rest)
  | none => do
    let (whole, rest) ← scanWhole? unsigned
    let (tail, rest) ← scanFloatTail? rest
    let n ← finite? negative (whole ++ tail)
    some (n, rest)

/-- An integer of 64 bits. -/
def integer? (negative : Bool) (n : Nat) : Option Json.Number :=
  if negative then
    if n = 0 then some (.natural 0) else if n ≤ 1 <<< 63 then some (.negative (-(n : Int))) else none
  else if n < 1 <<< 63 then some (.natural n) else none

/-- An integer with a mark for its base. -/
def readBased? (p : Char → Bool) (base : Nat) (text : List Char) :
    Option (Json.Number × List Char) := do
  let (digits, rest) ← scanDigits? p text
  let values ← digits.mapM Json.hexValue?
  let n ← integer? false (values.foldl (fun n v => n * base + v) 0)
  some (n, rest)

/-- An integer. -/
def readInteger? (text : List Char) : Option (Json.Number × List Char) :=
  match text with
  | '0' :: 'x' :: rest => readBased? (fun c => (Json.hexValue? c).isSome) 16 rest
  | '0' :: 'o' :: rest => readBased? (fun c => '0' ≤ c && c ≤ '7') 8 rest
  | '0' :: 'b' :: rest => readBased? (fun c => c == '0' || c == '1') 2 rest
  | _ => do
    let (negative, unsigned) := scanSign text
    let (digits, rest) ← scanWhole? unsigned
    let n ← integer? negative (Decimal.digitsValue digits)
    some (n, rest)

/-! ## Dates and times -/

/-- A number of exactly so many digits. -/
def scanNumber? (digits : Nat) (text : List Char) : Option (Nat × List Char) :=
  let ds := text.take digits
  if ds.length = digits && ds.all Char.isDigit then
    some (Decimal.digitsValue ds, text.drop digits)
  else none

/-- A number of two digits within bounds. -/
def scanTwo? (low high : Nat) (text : List Char) : Option (Nat × List Char) :=
  (scanNumber? 2 text).filter fun (n, _) => low ≤ n && n ≤ high

/-- The rest after one character that must come next. -/
def expect? (c : Char) : List Char → Option (List Char)
  | d :: rest => if c = d then some rest else none
  | [] => none

/-- How many days a month has. -/
def daysIn (year month : Nat) : Nat :=
  if month = 2 then if year % 4 = 0 && (year % 100 ≠ 0 || year % 400 = 0) then 29 else 28
  else if [4, 6, 9, 11].contains month then 30
  else 31

/-- What comes after a date. -/
def scanDate? (text : List Char) : Option (List Char) := do
  let (year, rest) ← scanNumber? 4 text
  let rest ← expect? '-' rest
  let (month, rest) ← scanTwo? 1 12 rest
  let rest ← expect? '-' rest
  let (_, rest) ← scanTwo? 1 (daysIn year month) rest
  some rest

/-- What comes after a fraction of a second. -/
def scanSecondFraction? : List Char → Option (List Char)
  | '.' :: c :: rest => if c.isDigit then some (rest.dropWhile Char.isDigit) else none
  | _ => none

/-- What comes after a time of day; a point has digits after it. -/
def scanTime? (text : List Char) : Option (List Char) := do
  let (_, rest) ← scanTwo? 0 23 text
  let rest ← expect? ':' rest
  let (_, rest) ← scanTwo? 0 59 rest
  let rest ← expect? ':' rest
  let (_, rest) ← scanTwo? 0 60 rest
  some ((scanSecondFraction? rest).getD rest)

/-- What comes after an offset from universal time. -/
def scanOffset? : List Char → Option (List Char)
  | c :: rest =>
    if c = 'Z' || c = 'z' then some rest
    else if c = '+' || c = '-' then do
      let (_, rest) ← scanTwo? 0 23 rest
      let rest ← expect? ':' rest
      let (_, rest) ← scanTwo? 0 59 rest
      some rest
    else none
  | [] => none

/-- What comes after the time that belongs to a date. -/
def scanTimeOfDate? : List Char → Option (List Char)
  | c :: rest =>
    if c = 'T' || c = 't' || c = ' ' then
      (scanTime? rest).map fun rest => (scanOffset? rest).getD rest
    else none
  | [] => none

/-- What comes after a date with or without a time, or after a time alone. -/
def scanMoment? (text : List Char) : Option (List Char) :=
  match scanDate? text with
  | some rest => some ((scanTimeOfDate? rest).getD rest)
  | none => scanTime? text

/-- A moment as a document: a table of one field that no setting has. -/
def momentDocument (text : List Char) : Json.Document :=
  .record [(some "moment", .text (some (String.ofList text)))] .closed

/-- A value that starts with a digit or a sign. -/
def readNumeric? (text : List Char) : Option (Json.Document × List Char) :=
  match scanMoment? text with
  | some rest => some (momentDocument (text.take (text.length - rest.length)), rest)
  | none => ((readFloat? text).or (readInteger? text)).map fun (n, rest) => (.number (some n), rest)

end ValidatorGen.Toml
