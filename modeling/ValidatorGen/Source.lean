/-
Where the rows of a run come from: they are at hand, or a file was exported that holds
them.
-/
import ValidatorGen.Error
import ValidatorGen.Files.Fault
import ValidatorGen.Stored.Relation

namespace ValidatorGen

/-- A source: a name for it, and its rows or why there are none. -/
structure Source where
  label : String
  rows : Except Error (List RawColumn)

namespace Source

/-- A source of rows that are at hand. -/
def ofRows (rows : List RawColumn) : Source := ⟨"static", .ok rows⟩

/-- The rows that a text holds. -/
def parseRows (text : String) : Except Error (List RawColumn) :=
  (Json.decodeText (Json.Codec.list RawColumn.codec).decode text).mapError .json

/-- The label of files. -/
def fileLabel : String := "json"

/-- A source of rows that were exported to a file. -/
def ofFile (path : String) : Except FileFault String → Source
  | .error fault =>
    ⟨fileLabel, .error (.collector ("reading " ++ path ++ ": " ++ fault.message))⟩
  | .ok text => ⟨fileLabel, parseRows text⟩

end Source

end ValidatorGen
