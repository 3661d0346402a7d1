/-
Overrides of single settings by named values, mostly variables of the process
environment.  There are seven of them, they are applied in a fixed order, and
the first one that is no number where a number is wanted ends the work.
-/
import LayeredConfig.KeyStore
import LayeredConfig.Settings
import LayeredConfig.Text.Blank
import LayeredConfig.Text.Numeral
import LayeredConfig.Text.Pieces

namespace LayeredConfig

inductive Overridable where
  | keyPaths
  | keyPrefix
  | hdrPrefix
  | maxSubstitutionDepth
  | redisUrl
  | redisMaxIdle
  | redisMaxActive
deriving DecidableEq, Repr

namespace Overridable

/-- The settings in the order in which they are overridden. -/
def inOrder : List Overridable :=
  [keyPaths, keyPrefix, hdrPrefix, maxSubstitutionDepth, redisUrl, redisMaxIdle, redisMaxActive]

/-- The name of a setting's value, without the prefix of the environment. -/
def name : Overridable → String
  | keyPaths => "KEY_PATHS"
  | keyPrefix => "KEY_PREFIX"
  | hdrPrefix => "HDR_PREFIX"
  | maxSubstitutionDepth => "MAX_SUBSTITUTION_DEPTH"
  | redisUrl => "REDIS_URL"
  | redisMaxIdle => "REDIS_MAX_IDLE"
  | redisMaxActive => "REDIS_MAX_ACTIVE"

/-- The search paths that a text lists between commas.  Blanks around a path
do not belong to it, and an item of blanks is none. -/
def pathList (raw : String) : List String :=
  (((Text.pieces ',' raw.toList).map Text.trim).filter fun path => !path.isEmpty).map String.ofList

/-- The number that a text gives, perhaps among blanks. -/
def number? (raw : String) : Option Nat :=
  Text.word? (Text.trim raw.toList)

/-- The settings with one of them overridden, if the value can be read. -/
def assign? (settings : Settings) (raw : String) : Overridable → Option Settings
  | keyPaths => some { settings with keyPaths := pathList raw }
  | keyPrefix => some { settings with keyPrefix := raw }
  | hdrPrefix => some { settings with hdrPrefix := raw }
  | maxSubstitutionDepth =>
      (number? raw).map fun n => { settings with maxSubstitutionDepth := n }
  | redisUrl => some { settings with redis := { settings.redis with url := raw } }
  | redisMaxIdle =>
      (number? raw).map fun n => { settings with redis := { settings.redis with maxIdle := n } }
  | redisMaxActive =>
      (number? raw).map fun n => { settings with redis := { settings.redis with maxActive := n } }

end Overridable

/-- Values to override settings with, and the prefix that their names have
where they come from. -/
structure Overrides where
  marker : String
  values : NameMap String

namespace Overrides

/-- Values that are given under the bare names. -/
def ofValues (values : NameMap String) : Overrides := ⟨"", values⟩

/-- The prefix of the environment variables that are looked at by default. -/
def defaultMarker : String := "CONFMGR_"

/-- The longest value of a variable that is looked at, in bytes. -/
def valueLimit : Nat := 64 * 1024

/-- The bare name and the value of a variable, if its name has the prefix,
both are texts and the value is not too long. -/
def select? (marker : String) (entry : ByteArray × ByteArray) : Option (String × String) := do
  let name ← String.fromUTF8? entry.1
  let bare ← marker.toList.isPrefixOf? name.toList
  if entry.2.size > valueLimit then none
  let value ← String.fromUTF8? entry.2
  return (String.ofList bare, value)

/-- The overrides that an environment holds. -/
def ofEnvironment (marker : String) (environment : List (ByteArray × ByteArray)) : Overrides :=
  ⟨marker, NameMap.ofList (environment.filterMap (select? marker))⟩

/-- Why an override was refused. -/
def notANumber (o : Overrides) (setting : Overridable) (raw : String) : Failure :=
  .invalidSettings (o.marker ++ setting.name ++ " is not a valid number: '" ++ raw ++ "'")

/-- Override one setting, if there is a value for it. -/
def applyOne (o : Overrides) (setting : Overridable) : Action Settings Unit := do
  match o.values.get? setting.name with
  | none => return
  | some raw =>
      match setting.assign? (← get) raw with
      | some settings => set settings
      | none => throw (o.notANumber setting raw)

/-- Override settings in order.  After a failure the settings hold what was
overridden before it. -/
def apply (o : Overrides) : Action Settings Unit :=
  Overridable.inOrder.forM o.applyOne

end Overrides

end LayeredConfig
