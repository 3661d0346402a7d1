/-
Assembling settings from their layers: a base, a settings file, overrides.
Each layer replaces only what it sets, and only the result is checked.
-/
import LayeredConfig.Settings.Overrides
import LayeredConfig.SettingsFile

namespace LayeredConfig

/-- Which settings file is read. -/
inductive FileSource where
  | none
  | discover
  | path (path : ByteArray)
deriving DecidableEq

/-- The layers that settings are assembled from. -/
structure SettingsLoader where
  base : Settings := {}
  file : FileSource := .none
  overrides : Option Overrides := none

namespace SettingsLoader

/-- The base with the settings file laid over it; `locations` is where one is
looked for. -/
def withFile (loader : SettingsLoader) (tree : FileTree) (locations : List ByteArray) :
    Except Failure Settings :=
  match loader.file with
  | .none => .ok loader.base
  | .path path => do
      let file ← SettingsFile.load tree path
      file.applyTo loader.base
  | .discover => do
      match ← SettingsFile.discoverIn tree locations with
      | some file => file.applyTo loader.base
      | Option.none => return loader.base

def overridden (loader : SettingsLoader) (settings : Settings) : Except Failure Settings :=
  match loader.overrides with
  | some overrides =>
      match overrides.apply.outcome settings with
      | (.ok (), settings) => .ok settings
      | (.error failure, _) => .error failure
  | none => .ok settings

def load (loader : SettingsLoader) (tree : FileTree) (locations : List ByteArray) :
    Except Failure Settings := do
  let settings ← loader.withFile tree locations
  let settings ← loader.overridden settings
  settings.validate
  return settings

end SettingsLoader

end LayeredConfig
