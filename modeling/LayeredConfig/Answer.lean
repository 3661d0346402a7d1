/-
Answers to lookups.  Every value in an answer travels with the full key that
it was read from, so that the layer behind it stays visible.
-/
import LayeredConfig.Json
import LayeredConfig.KeyKind
import LayeredConfig.NameMap

namespace LayeredConfig

/-- A value with the key it came from; both are empty for a missing value. -/
structure Sourced where
  value : String := ""
  source : String := ""
deriving DecidableEq, Repr

namespace Sourced

instance : Inhabited Sourced := ⟨{}⟩

/-- Did the value come from nowhere? -/
def isEmpty (s : Sourced) : Bool := s.source.isEmpty

def toJson (s : Sourced) : Json :=
  .object [(some "value", .text s.value), (some "source", .text s.source)]

end Sourced

/-- The answer to a lookup. -/
inductive Answer where
  | string (value : Sourced)
  | hash (fields : NameMap Sourced)
  | list (entries : List Sourced)
deriving DecidableEq

namespace Answer

/-- The kind of values that an answer was made of. -/
def kind : Answer → KeyKind
  | string _ => .string
  | hash _ => .hash
  | list _ => .list

/-- Does an answer say that nothing was found? -/
def isEmpty : Answer → Bool
  | string value => value.isEmpty
  | hash fields => fields.isEmpty
  | list entries => entries.isEmpty

/-- An answer for people: the values, one a line, fields with their names. -/
def toText : Answer → String
  | string value => value.value
  | hash fields =>
      String.intercalate "\n" (fields.entries.map fun entry => entry.1 ++ ": " ++ entry.2.value)
  | list entries => String.intercalate "\n" (entries.map Sourced.value)

def data : Answer → Json
  | string value => value.toJson
  | hash fields => .object (fields.entries.map fun entry => (some entry.1, entry.2.toJson))
  | list entries => .array (entries.map Sourced.toJson)

/-- An answer as JSON: its kind, then what it holds. -/
def toJson (answer : Answer) : Json :=
  .object [(some "type", .text answer.kind.tag), (some "data", answer.data)]

end Answer

end LayeredConfig
