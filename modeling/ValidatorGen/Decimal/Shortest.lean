/-
The shortest decimal that reads back as a given binary float. A finite float is `m · 2^q`
for natural `m`; the reals that round to it form an interval around it, with its ends when
`m` is even. For one digit, two digits and so on, the two neighbours of the value on that
decimal grid are tried, and the first grid with a hit wins, the nearer of two hits. Of two
that are equally near, a `Tie` chooses.

All arithmetic is exact, on natural numbers.
-/
namespace ValidatorGen.Decimal

/-- A decimal `significand · 10^scale`. -/
structure Scientific where
  significand : Nat
  scale : Int
  deriving DecidableEq, Repr

/-- Which of two neighbours that are equally near is taken. -/
inductive Tie
  /-- The greater one. -/
  | up
  /-- The one with an even last digit. -/
  | even
  deriving DecidableEq, Repr

/-- Whether the neighbour above is taken, by the digits of the one below. -/
def Tie.takesUpper : Tie → Nat → Bool
  | .up, _ => true
  | .even, below => below % 2 == 1

/-- A positive rational as a quotient of naturals. -/
structure Quotient where
  num : Nat
  den : Nat

/-- `n · base^e`, for an exponent of either sign. -/
def Quotient.ofPower (n base : Nat) : Int → Quotient
  | .ofNat e => ⟨n * Nat.pow base e, 1⟩
  | .negSucc e => ⟨n, Nat.pow base (e + 1)⟩

/-- Whether one quotient is less than the other. -/
def Quotient.lt (a b : Quotient) : Bool := a.num * b.den < b.num * a.den

/-- A positive float taken apart: its value and the reals nearest to it are
`value`, `low` and `high` quarter units in the last place, each times `2^power`. -/
structure Binary where
  value : Nat
  low : Nat
  high : Nat
  power : Int
  closed : Bool
  deriving DecidableEq, Repr

/-- The float with the given exponent and fraction fields, sign aside. The interval below
a power of two is half as wide as the one above it. -/
def Binary.ofFields (exponent fraction : Nat) : Binary :=
  let m := if exponent = 0 then fraction else (1 <<< 52) + fraction
  let q : Int := if exponent = 0 then -1074 else (exponent : Int) - 1075
  ⟨4 * m, if fraction = 0 && 1 < exponent then 4 * m - 1 else 4 * m - 2, 4 * m + 2, q - 2,
    m % 2 == 0⟩

/-- The exponent fields of a float: sign, exponent, fraction. -/
def fields (bits : UInt64) : Bool × Nat × Nat :=
  (bits >>> 63 != 0, (bits >>> 52).toNat % 2048, bits.toNat % (1 <<< 52))

/-- Whether a decimal reads back as the float. -/
def Binary.holds (b : Binary) (d : Scientific) : Bool :=
  let x := Quotient.ofPower d.significand 10 d.scale
  let low := Quotient.ofPower b.low 2 b.power
  let high := Quotient.ofPower b.high 2 b.power
  if b.closed then !x.lt low && !high.lt x else low.lt x && x.lt high

/-- The exponent of the leading decimal digit: `10^e ≤ v < 10^(e+1)`. -/
def leadingExponent (v : Quotient) : Int :=
  if v.den ≤ v.num then (Nat.toDigits 10 (v.num / v.den)).length - 1
  else
    let k := (Nat.toDigits 10 (v.den / v.num)).length
    if v.den ≤ v.num * Nat.pow 10 (k - 1) then -((k : Int) - 1) else -(k : Int)

/-- Of the two neighbours of the float on the grid `10^scale`, the nearer one that reads
back, if any does. -/
def Binary.onGrid? (tie : Tie) (b : Binary) (scale : Int) : Option Scientific :=
  let v := Quotient.ofPower b.value 2 b.power
  let unit := Quotient.ofPower 1 10 scale
  let below := v.num * unit.den / (v.den * unit.num)
  let lower : Scientific := ⟨below, scale⟩
  let upper : Scientific := ⟨below + 1, scale⟩
  match b.holds lower, b.holds upper with
  | true, true =>
    -- twice the remainder against one unit decides which of them is nearer
    let rest := v.num * unit.den - below * (v.den * unit.num)
    let one := v.den * unit.num
    if 2 * rest < one || (2 * rest == one && !tie.takesUpper below) then some lower
    else some upper
  | true, false => some lower
  | false, true => some upper
  | false, false => none

/-- Drops zeros at the end of a significand of at most `fuel` digits. -/
def stripZeros : Nat → Scientific → Scientific
  | 0, d => d
  | fuel + 1, d =>
    if d.significand % 10 = 0 && d.significand ≠ 0 then
      stripZeros fuel ⟨d.significand / 10, d.scale + 1⟩
    else d

/-- The decimal of the fewest digits that reads back as the float, the nearest of those. -/
def Binary.shortest (tie : Tie) (b : Binary) : Scientific :=
  let e := leadingExponent (Quotient.ofPower b.value 2 b.power)
  let found := (List.range 17).findSome? fun (n : Nat) => b.onGrid? tie (e - n)
  stripZeros 20 (found.getD ⟨0, 0⟩)

end ValidatorGen.Decimal
