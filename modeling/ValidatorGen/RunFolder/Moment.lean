/-
Moments of time, in the calendar. Years are counted from the first of March, so that the
leap day is the last day of a year and of every cycle of four hundred years.
-/
namespace ValidatorGen

/-- A moment: milliseconds since the start of 1970. -/
structure Moment where
  milliseconds : Nat
  deriving DecidableEq, Repr

namespace Moment

/-- A day of the calendar. -/
structure Day where
  year : Nat
  month : Nat
  day : Nat
  deriving DecidableEq, Repr

/-- How many days before 1970 the first cycle of four hundred years starts. -/
def daysBefore : Nat := 719468

/-- The days of a cycle of four hundred years. -/
def cycleDays : Nat := 146097

/-- The day that comes so many days after the start of 1970. -/
def dayOf (days : Nat) : Day :=
  let cycle := (days + daysBefore) / cycleDays
  let rest := (days + daysBefore) % cycleDays
  let year := (rest - rest / 1460 + rest / 36524 - rest / 146096) / 365
  let dayOfYear := rest - (365 * year + year / 4 - year / 100)
  let month := (5 * dayOfYear + 2) / 153
  { year := cycle * 400 + year + (if month < 10 then 0 else 1)
    month := if month < 10 then month + 3 else month - 9
    day := dayOfYear - (153 * month + 2) / 5 + 1 }

/-- A number with zeros before it, up to a width. -/
def padded (width n : Nat) : String :=
  let digits := toString n
  String.ofList (List.replicate (width - digits.length) '0') ++ digits

/-- The day of a moment. -/
def date (m : Moment) : String :=
  let d := dayOf (m.milliseconds / 86400000)
  padded 4 d.year ++ "-" ++ padded 2 d.month ++ "-" ++ padded 2 d.day

/-- The time of day of a moment, to the second. -/
def time (separator : String) (m : Moment) : String :=
  let seconds := m.milliseconds / 1000 % 86400
  padded 2 (seconds / 3600) ++ separator ++ padded 2 (seconds / 60 % 60) ++ separator
    ++ padded 2 (seconds % 60)

/-- The moment in full. -/
def stamp (m : Moment) : String :=
  m.date ++ "T" ++ m.time ":" ++ "." ++ padded 3 (m.milliseconds % 1000) ++ "Z"

/-- The moment in full, with its offset from universal time; whole seconds have no fraction. -/
def rfc3339 (m : Moment) : String :=
  let fraction := m.milliseconds % 1000
  m.date ++ "T" ++ m.time ":" ++ (if fraction = 0 then "" else "." ++ padded 3 fraction) ++ "+00:00"

/-- The moment to the second, as a part of a name. -/
def label (m : Moment) : String := m.date ++ "T" ++ m.time "-" ++ "Z"

end Moment

end ValidatorGen
