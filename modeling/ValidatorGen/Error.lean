/-
What makes a run fail, as causes; `Error.message` puts them into words.
-/
import ValidatorGen.Configuration
import ValidatorGen.Json.Decoding

namespace ValidatorGen

/-- The cause of a failed run. -/
inductive Error
  /-- The options are refused before any table is made. -/
  | configuration (fault : ConfigurationFault)
  /-- An extension failed on a table or a column. -/
  | hook (entity message : String)
  /-- The source gave no columns. -/
  | collector (message : String)
  /-- The schema is not one. -/
  | invalidSchema (message : String)
  /-- A stored document does not hold what it should. -/
  | json (fault : Json.DecodeFault)

/-- The cause in words; the text of a document that is no document is not described. -/
def Error.message : Error → Option String
  | .configuration fault => some ("invalid configuration: " ++ fault.message)
  | .hook entity message => some ("hook failed for " ++ entity ++ ": " ++ message)
  | .collector message => some ("collector error: " ++ message)
  | .invalidSchema message => some ("invalid schema: " ++ message)
  | .json fault => fault.message

end ValidatorGen
