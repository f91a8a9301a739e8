/-
Numbers as documents spell them: an optional minus sign, digits without a leading zero, an
optional fraction and an optional exponent. A numeral without fraction and exponent that
fits 64 bits is an integer; every other one is a float, worked out from its first digits
(as many as fit 64 bits) and a power of ten, and out of range when that is infinite.
-/
import ValidatorGen.Decimal.Reading

namespace ValidatorGen.Json

/-- Why a text is no document: it breaks the rules, or it ends too early. -/
inductive Fault
  | malformed
  | truncated
  deriving DecidableEq, Repr

/-- The spelling of a number. -/
structure Numeral where
  negative : Bool
  whole : List Char
  fraction : Option (List Char)
  exponent : Option Int
  deriving DecidableEq, Repr

/-- What a numeral stands for. -/
inductive Number
  | natural (n : Nat)
  | negative (n : Int)
  | float (f : Float)

/-- Reads the exponent after its mark. -/
def scanExponent (text : List Char) : Except Fault (Int × List Char) :=
  let (negative, digits) := match text with
    | '+' :: rest => (false, rest)
    | '-' :: rest => (true, rest)
    | _ => (false, text)
  match Decimal.spanDigits digits with
  | ([], []) => .error .truncated
  | ([], _) => .error .malformed
  | (ds, rest) =>
    let e : Int := Decimal.digitsValue ds
    .ok (if negative then -e else e, rest)

/-- Reads what follows the whole part of a numeral. -/
def scanTail (negative : Bool) (whole text : List Char) : Except Fault (Numeral × List Char) := do
  let (fraction, text) ← match text with
    | '.' :: rest =>
      match Decimal.spanDigits rest with
      | ([], []) => .error .truncated
      | ([], _) => .error .malformed
      | (ds, rest) => .ok (some ds, rest)
    | _ => .ok (none, text)
  match text with
  | 'e' :: rest => do
    let (e, rest) ← scanExponent rest
    .ok (⟨negative, whole, fraction, some e⟩, rest)
  | 'E' :: rest => do
    let (e, rest) ← scanExponent rest
    .ok (⟨negative, whole, fraction, some e⟩, rest)
  | _ => .ok (⟨negative, whole, fraction, none⟩, text)

/-- Reads a numeral, and gives the rest of the text. -/
def scanNumeral (text : List Char) : Except Fault (Numeral × List Char) :=
  let (negative, digits) := match text with
    | '-' :: rest => (true, rest)
    | _ => (false, text)
  match Decimal.spanDigits digits with
  | ([], []) => .error .truncated
  | ([], _) => .error .malformed
  | ('0' :: _ :: _, _) => .error .malformed
  | (whole, rest) => scanTail negative whole rest

/-- The digits that count towards the value, and how many are left out: digits are taken
while the number they make fits 64 bits. -/
def takeDigits (n : Nat) : List Char → Nat × Nat
  | [] => (n, 0)
  | d :: ds =>
    let next := 10 * n + (d.toNat - '0'.toNat)
    if next < UInt64.size then takeDigits next ds else (n, ds.length + 1)

/-- `significand · 10^e` by one or two roundings, when it is finite. -/
def scaledFloat? (significand : Nat) (e : Int) : Option Float :=
  let f := significand.toUInt64.toFloat
  let power (n : Nat) : Float := Float.ofScientific 1 false n
  if significand = 0 then some 0.0
  else if 308 < e then none
  else if 0 ≤ e then
    let product := f * power e.toNat
    if product.isInf then none else some product
  else if -308 ≤ e then some (f / power (-e).toNat)
  else if -616 ≤ e then some (f / power 308 / power ((-e).toNat - 308))
  else some 0.0

/-- The value of a numeral, unless it is out of range. -/
def Numeral.value? (n : Numeral) : Option Number :=
  let (significand, skipped) := takeDigits 0 n.whole
  let signed (f : Float) : Number := .float (if n.negative then -f else f)
  match n.fraction, n.exponent with
  | none, none =>
    if skipped = 0 then
      if n.negative then
        if significand = 0 then some (signed 0.0)
        else if significand ≤ 1 <<< 63 then some (.negative (-significand))
        else some (signed significand.toUInt64.toFloat)
      else some (.natural significand)
    else (scaledFloat? significand skipped).map signed
  | fraction, exponent =>
    let digits := fraction.getD []
    let (significand, left) := takeDigits significand digits
    let taken := digits.length - left
    (scaledFloat? significand (skipped - taken + exponent.getD 0)).map signed

end ValidatorGen.Json
