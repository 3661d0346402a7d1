/-
Values that can be stored under a key, and the JSON payloads that carry them:
an object that names the kind under `type` and the value under `data`.
-/
import LayeredConfig.Json.Reader
import LayeredConfig.KeyKind
import LayeredConfig.NameMap
import LayeredConfig.Failure

namespace LayeredConfig

inductive StoredValue where
  | string (value : String)
  | hash (fields : NameMap String)
  | list (entries : List String)
deriving DecidableEq

namespace StoredValue

def kind : StoredValue → KeyKind
  | string _ => .string
  | hash _ => .hash
  | list _ => .list

def toJson (value : StoredValue) : Json :=
  .object [(some "type", .text value.kind.tag), (some "data",
    match value with
    | string value => .text value
    | hash fields => .object (fields.entries.map fun entry => (some entry.1, .text entry.2))
    | list entries => .array (entries.map .text))]

def text? : Json → Option String
  | .string text => text
  | _ => none

/-- A member whose name and value are texts. -/
def field? : Option String × Json → Option (String × String)
  | (some name, value) => (text? value).map (name, ·)
  | (none, _) => none

/-- The value of a kind that JSON data stands for.  Of equal fields the last
one counts. -/
def ofData? : KeyKind → Json → Option StoredValue
  | .string, data => (text? data).map string
  | .hash, .object members => (members.mapM field?).map fun fields => hash (NameMap.ofList fields)
  | .list, .array items => (items.mapM text?).map list
  | _, _ => none

/-- The kind that JSON names: by its tag, or by a member of that name which
holds nothing. -/
def kind? : Json → Option KeyKind
  | .string (some tag) => KeyKind.ofTag? tag
  | .object [(some tag, .null)] => KeyKind.ofTag? tag
  | _ => none

/-- The one value among the members of a name, if there is exactly one. -/
def only? (name : String) (members : List (Option String × Json)) : Option Json :=
  match members.filter fun member => member.1 = some name with
  | [member] => some member.2
  | _ => none

/-- The stored value that JSON stands for: an object with one `type` and one
`data` among any other members, or an array of just these two. -/
def ofJson? : Json → Option StoredValue
  | .object members => do
      if members.any fun member => member.1.isNone then none
      let kind ← kind? (← only? "type" members)
      ofData? kind (← only? "data" members)
  | .array [tag, data] => do
      let kind ← kind? tag
      ofData? kind data
  | _ => none

/-- The stored value that a payload carries. -/
def decode (payload : String) : Except Failure StoredValue :=
  match (Json.parse? payload).bind ofJson? with
  | some value => .ok value
  | none => .error (.unparsable "Invalid stored value payload: " (some ""))

example : (decode "\x7b\"data\":[\"a\"],\"type\":\"list\"\x7d").toOption =
    some (.list ["a"]) := by decide +kernel

end StoredValue

end LayeredConfig
