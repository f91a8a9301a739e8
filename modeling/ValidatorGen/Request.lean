/-
What a run is asked for: the namespace that tables are assigned to, the tables to take,
and the configuration of what is rendered.
-/
import ValidatorGen.TableFilter

namespace ValidatorGen

/-- The namespace of a run and the tables that it takes. -/
structure Selection where
  /-- The namespace of every table whose rows name none. -/
  schemaName : String := "public"
  /-- Tables that are taken; all, when absent. -/
  included : Option TableFilter := none
  /-- Tables that are left out, even if they are included. -/
  excluded : Option TableFilter := none
  deriving DecidableEq, Repr

/-- What a run is asked for. -/
structure Request where
  selection : Selection := {}
  config : Configuration := {}
  deriving DecidableEq, Repr

end ValidatorGen
