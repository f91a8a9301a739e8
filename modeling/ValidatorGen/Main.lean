/-
The command line: performs the scripts of the program on the files of the system, with its
clock. It runs no other programs, so nothing is known of the repository that it is called in.
-/
import ValidatorGen.Program
import Std.Time.DateTime.Timestamp

namespace ValidatorGen

/-- The fault that the system reports. -/
def FileFault.ofSystem : IO.Error → FileFault
  | .noFileOrDirectory .. => .notFound
  | .alreadyExists .. => .occupied
  | fault => .stated (toString fault)

/-- What comes of an action on files. -/
def attempt (action : IO α) : IO (Except FileFault α) := do
  try
    return .ok (← action)
  catch fault =>
    return .error (.ofSystem fault)

/-- Milliseconds since the start of 1970. -/
def clockTime : IO Nat := do
  let time ← Std.Time.Timestamp.now
  return time.toMillisecondsSinceUnixEpoch.val.toNat

/-- Performs a script. -/
def perform : Script ε α → IO (Except ε α)
  | .done result => return result
  | .clock next => do perform (next (← clockTime))
  | .read path next => do perform (next (← attempt (IO.FS.readFile path.text)))
  | .makeDirs path next => do perform (next (← attempt (IO.FS.createDirAll path.text)))
  | .write path text next => do perform (next (← attempt (IO.FS.writeFile path.text text)))
  | .append path text next => do
    let result ← attempt do
      let handle ← IO.FS.Handle.mk path.text .append
      handle.putStr text
    perform (next result)

/-- The variables of options that are set. -/
def environment : IO (List (String × String)) :=
  Environment.names.filterMapM fun name => do
    return (← IO.getEnv name).map fun value => (name, value)

end ValidatorGen

open ValidatorGen in
def main (arguments : List String) : IO UInt32 := do
  let id := RunFolder.idOfBytes (← IO.getRandomBytes 16).toList
  let report := Report.ofResult (← perform (Task.ofArguments arguments (← environment) id))
  IO.print report.output
  IO.eprint report.complaint
  return report.exitCode.toUInt32
