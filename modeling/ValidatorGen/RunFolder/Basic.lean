/-
Run folders. Every run of the command has a folder of its own, named by when it started and
by its identifier; it holds the request, the log, and at last the output.
-/
import ValidatorGen.Files.Script
import ValidatorGen.RunFolder.Entry
import ValidatorGen.RunFolder.Origin
import ValidatorGen.Stored.Model
import ValidatorGen.Stored.Request

namespace ValidatorGen

open Json (Value)

/-- The folder of a run. -/
structure RunFolder where
  id : String
  started : Moment
  /-- The directory of run folders. -/
  base : Path
  deriving DecidableEq, Repr

namespace RunFolder

/-- The name of a run folder; names are in the order of their starts. -/
def name (f : RunFolder) : String := f.started.label ++ "__run_" ++ f.id

/-- The folder. -/
def path (f : RunFolder) : Path := f.base.child f.name

/-- The file of the request. -/
def configPath (f : RunFolder) : Path := f.path.child "config.json"

/-- The file of the log. -/
def logPath (f : RunFolder) : Path := f.path.child "logs.ndjson"

/-- The file of the output. -/
def outputPath (f : RunFolder) : Path := f.path.child "render.json"

/-- What a folder says about its run. -/
def config (f : RunFolder) (input : String) (request : Request) (origin : Origin) : Value := .record [
  ("run_id", .text f.id), ("started_at", .text (origin.startedAt f.started)), ("source", .text input),
  ("contract_version", .text contractVersion), ("request", Request.codec.encode request),
  ("git", (RepositoryState.ofAnswers origin.head origin.status).value)]

/-- The identifier made of random bytes: groups of hexadecimal digits, with the marks of an
identifier of this kind. -/
def idOfBytes (bytes : List UInt8) : String :=
  let marked (index : Nat) (b : UInt8) : UInt8 :=
    if index = 6 then (b &&& 0x0F) ||| 0x40 else if index = 8 then (b &&& 0x3F) ||| 0x80 else b
  let piece (index : Nat) (b : UInt8) : List Char :=
    (if [4, 6, 8, 10].contains index then ['-'] else [])
      ++ [Json.hexDigit (b.toNat / 16), Json.hexDigit (b.toNat % 16)]
  String.ofList ((bytes.mapIdx fun index b => piece index (marked index b)).flatten)

end RunFolder

end ValidatorGen
