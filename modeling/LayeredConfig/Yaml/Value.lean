/-
YAML values: what a document means once aliases have been followed and plain
scalars have been read as the values that they spell.
-/
namespace LayeredConfig.Yaml

/-- A value.  A real number is known by its 64-bit code; numbers that are equal
have one code.  Entries of a mapping keep the order in which they are written. -/
inductive Value where
  | null
  | bool (value : Bool)
  | integer (value : Int)
  | real (code : UInt64)
  | text (value : String)
  | sequence (items : List Value)
  | mapping (entries : List (Value × Value))
  | tagged (tag : String) (value : Value)

namespace Value

mutual

/-- Are two values the same?  The order of a mapping's entries does not count. -/
def same : Value → Value → Bool
  | null, null => true
  | bool a, bool b => a == b
  | integer a, integer b => a == b
  | real a, real b => a == b
  | text a, text b => a == b
  | sequence as, sequence bs => sameItems as bs
  | mapping as, mapping bs => as.length == bs.length && entriesWithin as bs
  | tagged s a, tagged t b => s == t && same a b
  | _, _ => false

/-- Are two lists of values the same, item by item? -/
def sameItems : List Value → List Value → Bool
  | [], [] => true
  | a :: as, b :: bs => same a b && sameItems as bs
  | _, _ => false

/-- Is every entry of a mapping also one of the other? -/
def entriesWithin : List (Value × Value) → List (Value × Value) → Bool
  | [], _ => true
  | (key, value) :: rest, others =>
      (others.any fun other => same key other.1 && same value other.2) &&
        entriesWithin rest others

end

def hasKey (key : Value) (entries : List (Value × Value)) : Bool :=
  entries.any fun entry => same key entry.1

def untagged : Value → Value
  | tagged _ value => untagged value
  | value => value

mutual

/-- Lay a value over another one: mappings are merged entry by entry, anything
else is replaced. -/
def overlay (base : Value) : (top : Value) → Value
  | mapping entries =>
      match base with
      | mapping below => mapping (overlayEntries below entries)
      | _ => mapping entries
  | top => top

def overlayEntries (below : List (Value × Value)) : List (Value × Value) → List (Value × Value)
  | [] => below
  | (key, value) :: rest => overlayEntries (overlayEntry key value below) rest

/-- Lay one entry over those of a mapping: it is merged into the entry of its
key, or becomes the last one. -/
def overlayEntry (key value : Value) (below : List (Value × Value)) : List (Value × Value) :=
  if hasKey key below then
    below.map fun entry => if same key entry.1 then (entry.1, overlay entry.2 value) else entry
  else below ++ [(key, value)]

end

end Value

end LayeredConfig.Yaml
