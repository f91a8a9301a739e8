/-
Settings files: a table for the configuration, and a table for the namespace and the
filters. Both may be missing, as may everything in them, and what is not known is passed
over.
-/
import ValidatorGen.Settings.Fault
import ValidatorGen.Stored.Request
import ValidatorGen.Toml.Reader

namespace ValidatorGen

open Json

/-- The namespace and the filters as a settings file gives them. -/
structure FilterTable where
  schemaName : Option String := none
  included : Option TableFilter := none
  excluded : Option TableFilter := none
  deriving DecidableEq, Repr

/-- The fields of the table of filters. -/
def FilterTable.slots : List (Slot FilterTable) := [
  .of "schema_name" .defaulted (nullable Json.string) fun v t => { t with schemaName := v },
  .of "include" .defaulted (nullable TableFilter.codec.decode) fun v t => { t with included := v },
  .of "exclude" .defaulted (nullable TableFilter.codec.decode)
    fun v t => { t with excluded := v }]

/-- What a settings file holds. -/
structure FileSettings where
  generator : Configuration := {}
  filters : FilterTable := {}
  deriving DecidableEq, Repr

namespace FileSettings

/-- The tables of a settings file. -/
def slots : List (Slot FileSettings) := [
  .of "generator" .defaulted Configuration.codec.decode fun v s => { s with generator := v },
  .of "filters" .defaulted (recordOf "FilterSettings" FilterTable.slots {})
    fun v s => { s with filters := v }]

/-- The settings that a text holds. -/
def parse (text : String) : Except SettingsFault FileSettings :=
  match Toml.parse? text with
  | none => .error .malformed
  | some d => (recordOf "FileSettings" slots {} .tables d).mapError fun _ => .malformed

/-- The request that settings make up on their own. -/
def request (s : FileSettings) : Request where
  config := s.generator
  selection := {
    schemaName := s.filters.schemaName.getD "public"
    included := s.filters.included
    excluded := s.filters.excluded }

end FileSettings

end ValidatorGen
