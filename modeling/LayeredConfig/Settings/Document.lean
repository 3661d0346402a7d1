/-
Settings as a document: which values stand for settings, the value that
settings are written as, and the settings that a document gives when it is
laid over others.
-/
import LayeredConfig.Settings
import LayeredConfig.Text.Blank
import LayeredConfig.Text.Numeral
import LayeredConfig.Yaml.Node

namespace LayeredConfig

namespace Yaml.Value

def text? (value : Value) : Option String :=
  match value.untagged with
  | text s => some s
  | _ => none

def bool? (value : Value) : Option Bool :=
  match value.untagged with
  | bool b => some b
  | _ => none

/-- The unsigned 64-bit number that a value is. -/
def word? (value : Value) : Option Nat :=
  match value.untagged with
  | integer n => if 0 ≤ n ∧ n ≤ Text.maxWord then some n.toNat else none
  | _ => none

/-- The number that a value is, or its absence.  Absence cannot have a tag. -/
def optionalWord? : Value → Option (Option Nat)
  | null => some none
  | value => value.word?.map some

/-- The texts of a sequence; null is the empty one. -/
def texts? (value : Value) : Option (List String) :=
  match value.untagged with
  | sequence items => items.mapM text?
  | null => some []
  | _ => none

/-- The named entries of a mapping all of whose keys are texts; null is the
empty one. -/
def fields? (value : Value) : Option (List (String × Value)) :=
  match value.untagged with
  | mapping entries => entries.mapM fun entry => entry.1.text?.map (·, entry.2)
  | null => some []
  | _ => none

/-- Read the field of a name.  A field that is not there has its default, and
one that is there twice cannot be read. -/
def readField {α : Type} (fields : List (String × Value)) (name : String)
    (read? : Value → Option α) (default : α) : Option α :=
  match fields.filter fun field => field.1 == name with
  | [] => some default
  | [field] => read? field.2
  | _ => none

end Yaml.Value

namespace RedisSettings

open Yaml.Value (readField text? word? optionalWord? bool?)

/-- The server settings that a value stands for.  Other names are passed over. -/
def ofValue? (value : Yaml.Value) : Option RedisSettings := do
  let fields ← value.fields?
  let default : RedisSettings := {}
  return {
    url := ← readField fields "url" text? default.url
    maxIdle := ← readField fields "max_idle" word? default.maxIdle
    maxActive := ← readField fields "max_active" word? default.maxActive
    wait := ← readField fields "wait" bool? default.wait
    waitTimeoutMs := ← readField fields "wait_timeout_ms" optionalWord? default.waitTimeoutMs
    idleTimeoutSecs := ← readField fields "idle_timeout_secs" word? default.idleTimeoutSecs
    connectTimeoutMs := ← readField fields "connect_timeout_ms" word? default.connectTimeoutMs }

/-- Server settings as a mapping that names every field. -/
def toValue (settings : RedisSettings) : Yaml.Value :=
  .mapping [
    (.text "url", .text settings.url),
    (.text "max_idle", .integer settings.maxIdle),
    (.text "max_active", .integer settings.maxActive),
    (.text "wait", .bool settings.wait),
    (.text "wait_timeout_ms",
      match settings.waitTimeoutMs with
      | some n => .integer n
      | none => .null),
    (.text "idle_timeout_secs", .integer settings.idleTimeoutSecs),
    (.text "connect_timeout_ms", .integer settings.connectTimeoutMs)]

end RedisSettings

namespace Settings

open Yaml.Value (readField text? texts? word?)

/-- The settings that a value stands for.  Other names are passed over. -/
def ofValue? (value : Yaml.Value) : Option Settings := do
  let fields ← value.fields?
  let default : Settings := {}
  return {
    keyPaths := ← readField fields "key_paths" texts? default.keyPaths
    keyPrefix := ← readField fields "key_prefix" text? default.keyPrefix
    hdrPrefix := ← readField fields "hdr_prefix" text? default.hdrPrefix
    maxSubstitutionDepth :=
      ← readField fields "max_substitution_depth" word? default.maxSubstitutionDepth
    redis := ← readField fields "redis" RedisSettings.ofValue? default.redis }

/-- Settings as a mapping that names every field. -/
def toValue (settings : Settings) : Yaml.Value :=
  .mapping [
    (.text "key_paths", .sequence (settings.keyPaths.map .text)),
    (.text "key_prefix", .text settings.keyPrefix),
    (.text "hdr_prefix", .text settings.hdrPrefix),
    (.text "max_substitution_depth", .integer settings.maxSubstitutionDepth),
    (.text "redis", settings.redis.toValue)]

/-- A failure to read a document as settings. -/
def unreadableDocument : Failure :=
  .unparsable "Failed to parse settings YAML: " (some "")

/-- The settings that a document stands for, on its own. -/
def ofDocument (document : Yaml.Value) : Except Failure Settings :=
  match ofValue? document with
  | some settings => .ok settings
  | none => .error unreadableDocument

/-- The settings that a document makes of others: what it names is replaced,
inside the server settings too. -/
def layer (base : Settings) (document : Yaml.Value) : Except Failure Settings :=
  ofDocument (base.toValue.overlay document)

/-- The document that a text holds.  A text of blanks is an empty mapping. -/
def parseDocument (content : String) : Except Failure Yaml.Value :=
  if content.toList.all Text.isBlank then .ok (.mapping [])
  else
    match Yaml.Value.ofStream? content with
    | some document => .ok document
    | none => .error unreadableDocument

def parse (content : String) : Except Failure Settings := do
  ofDocument (← parseDocument content)

end Settings

end LayeredConfig
