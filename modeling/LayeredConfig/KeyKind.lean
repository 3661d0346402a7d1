/-
What kind of value a key holds, with the tags that name the kinds.
-/
namespace LayeredConfig

/-- The kind of value under a key; `none` if there is no value. -/
inductive KeyKind where
  | none
  | string
  | list
  | hash
deriving DecidableEq, Repr

namespace KeyKind

def tag : KeyKind → String
  | .none => "none"
  | .string => "string"
  | .list => "list"
  | .hash => "hash"

def ofTag? (tag : String) : Option KeyKind :=
  if tag = "none" then some .none
  else if tag = "string" then some .string
  else if tag = "list" then some .list
  else if tag = "hash" then some .hash
  else Option.none

/-- What is said of a tag that names no kind. -/
def unknownTagMessage (tag : String) : String :=
  "unknown key kind '" ++ tag ++ "'"

@[simp] theorem ofTag?_tag (kind : KeyKind) : ofTag? kind.tag = some kind := by
  cases kind <;> decide

end KeyKind

end LayeredConfig
