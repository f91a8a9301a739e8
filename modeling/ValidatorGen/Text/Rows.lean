/-
Tables over code points, and how they are read. A property is a list of rows
`(first, last, step)`, or of ranges `(first, last)` where the step is one; a map is a list
of rows `(first, last, step, target)`.
-/
namespace ValidatorGen.Text

/-- Whether `n` is one of the points `first`, `first + step`, … of some row. -/
def inRows (rows : List (Nat × Nat × Nat)) (n : Nat) : Bool :=
  rows.any fun (first, last, step) => first ≤ n && n ≤ last && (n - first) % step == 0

/-- Whether `n` lies in one of the ranges. -/
def inRanges (ranges : List (Nat × Nat)) (n : Nat) : Bool :=
  ranges.any fun (first, last) => first ≤ n && n ≤ last

/-- Where the first row that holds `n` sends it. -/
def mapped? (rows : List (Nat × Nat × Nat × Nat)) (n : Nat) : Option Nat :=
  rows.findSome? fun (first, last, step, target) =>
    if first ≤ n && n ≤ last && (n - first) % step == 0 then some (target + (n - first)) else none

/-- A character of the first 128, which all tables leave out. -/
def isAscii (c : Char) : Bool := c.toNat < 128

end ValidatorGen.Text
