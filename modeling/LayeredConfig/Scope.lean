/-
The scope of a request: the dimensions (site, pod, host, ...) it belongs to.
A scope is read off request headers that carry a marker, or given directly.
-/
import LayeredConfig.NameMap
import LayeredConfig.Text.Lowercase

namespace LayeredConfig

/-- The variables that decide which layers of the configuration apply. -/
structure Scope where
  vars : NameMap String
deriving DecidableEq

namespace Scope

/-- The scope that defines nothing. -/
def empty : Scope := ⟨NameMap.empty⟩

instance : Inhabited Scope := ⟨empty⟩

/-- Collect pairs from the left; the last of equal names stays. -/
def ofPairs (pairs : List (String × String)) : Scope :=
  ⟨NameMap.ofList pairs⟩

/-- The variable that a header defines under a lower-cased marker: what its
lower-cased name has after the marker, if that is not empty. -/
def headerVariable? (marker name : String) : Option String :=
  match marker.toList.isPrefixOf? (Text.lowercase name).toList with
  | some (c :: cs) => some (String.ofList (c :: cs))
  | _ => none

/-- Add what one header defines; a variable that has a value keeps it. -/
def addHeader (marker : String) (scope : Scope) (header : String × String) : Scope :=
  match headerVariable? marker header.1 with
  | some var => ⟨scope.vars.insertNew var (Text.lowercase header.2)⟩
  | none => scope

/-- The scope that a request's headers define.  Case is folded everywhere, and
of two headers for one variable the first counts. -/
def ofHeaders (marker : String) (headers : List (String × String)) : Scope :=
  headers.foldl (addHeader (Text.lowercase marker)) empty

def get? (scope : Scope) (name : String) : Option String :=
  scope.vars.get? name

def contains (scope : Scope) (name : String) : Bool :=
  scope.vars.contains name

/-- The text of a scope: its variables in name order. -/
def render (scope : Scope) : String :=
  String.intercalate "," (scope.vars.entries.map fun entry => entry.1 ++ "=" ++ entry.2)

end Scope

end LayeredConfig
