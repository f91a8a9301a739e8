/-
Why an operation on a file fails.
-/
namespace ValidatorGen

/-- Why an operation on a file fails. -/
inductive FileFault
  | notFound
  | occupied
  | notDirectory
  | isDirectory
  /-- A fault that the system states in its own words. -/
  | stated (text : String)
  deriving DecidableEq, Repr

/-- A fault in words, with its number. -/
def FileFault.message : FileFault → String
  | .notFound => "No such file or directory (os error 2)"
  | .occupied => "File exists (os error 17)"
  | .notDirectory => "Not a directory (os error 20)"
  | .isDirectory => "Is a directory (os error 21)"
  | .stated text => text

end ValidatorGen
