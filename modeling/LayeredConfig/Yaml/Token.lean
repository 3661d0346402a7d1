/-
The tokens of a YAML stream.
-/
namespace LayeredConfig.Yaml

/-- A token.  A tag is the handle that stands for a prefix and the rest; with
an empty handle the rest is the whole tag.  Of a scalar only its text counts
and whether it was written without quotes and bars. -/
inductive Token where
  | version (major minor : Nat)
  | tagPrefix (handle meaning : List Char)
  | documentStart
  | documentEnd
  | blockSequenceStart
  | blockMappingStart
  | blockEnd
  | flowSequenceStart
  | flowSequenceEnd
  | flowMappingStart
  | flowMappingEnd
  | blockEntry
  | flowEntry
  | key
  | value
  | alias (name : List Char)
  | anchor (name : List Char)
  | tag (handle suffix : List Char)
  | scalar (text : List Char) (plain : Bool)
deriving DecidableEq, Repr

end LayeredConfig.Yaml
