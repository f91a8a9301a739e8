/-
The request of a run, layer over layer: what is built in, the settings file, the
environment, the command line.
-/
import ValidatorGen.Settings.Environment
import ValidatorGen.Settings.File

namespace ValidatorGen

/-- The text of a settings file, or why it cannot be read. -/
structure SettingsText where
  path : String
  content : Except FileFault String

/-- The request that a settings file makes up, when there is one. -/
def fileRequest : Option SettingsText → Except SettingsFault Request
  | none => .ok {}
  | some ⟨path, .error fault⟩ => .error (.unreadable path fault)
  | some ⟨_, .ok text⟩ => (FileSettings.parse text).map FileSettings.request

/-- The request of a run. The file is read first, so its faults come before those of the
environment. -/
def resolve (file : Option SettingsText) (environment : List (String × String))
    (flags : Overrides) : Except SettingsFault Request := do
  let request ← fileRequest file
  let layer ← Environment.overrides environment
  .ok (flags.apply (layer.apply request))

end ValidatorGen
