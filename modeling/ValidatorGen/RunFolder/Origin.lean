/-
Where a run comes from: when it was started, and from which state of the repository around it. Both
are taken as they are told: a clock may be finer than a moment, and git may answer or not.
-/
import ValidatorGen.Json.Value
import ValidatorGen.RunFolder.Moment
import ValidatorGen.Text.Blank

namespace ValidatorGen

open Json (Value)

/-- What another program answered. -/
structure CommandAnswer where
  succeeded : Bool
  output : String
  deriving DecidableEq, Repr

/-- The state of a repository, as far as it is known. -/
structure RepositoryState where
  commit : Option String
  /-- Something differs from the commit. -/
  dirty : Option Bool
  deriving DecidableEq, Repr

namespace RepositoryState

/-- The state that git tells when it is asked for the commit and for the differences. What it
answers when it fails counts as nothing. -/
def ofAnswers (head status : Option CommandAnswer) : RepositoryState where
  commit := ((head.filter (·.succeeded)).map fun answer =>
    String.ofList (Text.trim answer.output.toList)).filter (· ≠ "")
  dirty := (status.filter (·.succeeded)).map fun answer => answer.output ≠ ""

/-- The state as it is stored. -/
def value (s : RepositoryState) : Value :=
  .record [("commit", .ofOption .text s.commit), ("dirty", .ofOption .bool s.dirty)]

end RepositoryState

/-- Where a run comes from. -/
structure Origin where
  /-- The start as it is written. -/
  startedAt : Moment → String := Moment.rfc3339
  /-- The answer of `git rev-parse HEAD`. -/
  head : Option CommandAnswer := none
  /-- The answer of `git status --porcelain`. -/
  status : Option CommandAnswer := none

end ValidatorGen
