/-
A store in memory.  It counts how often each key's value is fetched, and it
can be made unavailable, after which every operation fails and nothing
changes.
-/
import LayeredConfig.Glob
import LayeredConfig.KeyStore

namespace LayeredConfig

structure MemoryStore where
  entries : NameMap StoredValue := NameMap.empty
  fetches : NameMap Nat := NameMap.empty
  unavailable : Bool := false
deriving DecidableEq

namespace MemoryStore

instance : Inhabited MemoryStore := ⟨{}⟩

/-- The name under which the store reports failures. -/
def backendName : String := "memory"

/-- Why nothing works on a store that is marked unavailable. -/
def markedUnavailable : Failure :=
  .backendUnavailable backendName "Store marked unavailable" none

/-- The failure of an operation that wants another kind than it finds. -/
def wrongKind (key : String) (wanted found : KeyKind) : Failure :=
  .backend backendName
    ("Key " ++ key ++ " holds a " ++ found.tag ++ " value, not a " ++ wanted.tag) none

/-- The failure of reading a field that a hash does not have. -/
def missingField (key field : String) : Failure :=
  .backend backendName ("Field " ++ field ++ " missing from hash " ++ key) none

/-- The failure of a filter that is no pattern. -/
def malformedFilter (filter : String) : Failure :=
  .backend backendName ("Invalid key filter '" ++ filter ++ "'") (some "")

def kindAt (m : MemoryStore) (key : String) : KeyKind :=
  match m.entries.get? key with
  | some value => value.kind
  | none => .none

/-- How often a key's value has been fetched. -/
def fetchCount (m : MemoryStore) (key : String) : Nat :=
  (m.fetches.get? key).getD 0

def access : Action MemoryStore MemoryStore := do
  let m ← get
  if m.unavailable then throw markedUnavailable
  return m

/-- Fetch the value of a key, and count it. -/
def fetch (key : String) : Action MemoryStore (Option StoredValue) := do
  let m ← access
  set { m with fetches := m.fetches.insert key (m.fetchCount key + 1) }
  return m.entries.get? key

def write (key : String) (value : StoredValue) : Action MemoryStore Unit := do
  let m ← access
  set { m with entries := m.entries.insert key value }

def getScalar (key : String) : Action MemoryStore String := do
  match ← fetch key with
  | some (.string value) => return value
  | some other => throw (wrongKind key .string other.kind)
  | none => throw (wrongKind key .string .none)

/-- Read a hash; a missing one reads as empty. -/
def getHash (key : String) : Action MemoryStore (List (String × String)) := do
  match ← fetch key with
  | some (.hash fields) => return fields.entries
  | some other => throw (wrongKind key .hash other.kind)
  | none => return []

def getHashField (key field : String) : Action MemoryStore String := do
  match ← fetch key with
  | some (.hash fields) =>
      match fields.get? field with
      | some value => return value
      | none => throw (missingField key field)
  | some other => throw (wrongKind key .hash other.kind)
  | none => throw (wrongKind key .hash .none)

/-- Set one field of a hash, which is made if the key is free. -/
def setHashField (key field value : String) : Action MemoryStore Unit := do
  let m ← access
  match m.entries.get? key with
  | some (.hash fields) => write key (.hash (fields.insert field value))
  | some other => throw (wrongKind key .hash other.kind)
  | none => write key (.hash (NameMap.empty.insert field value))

/-- Does a key hold a hash that has this field? -/
def hasHashField (key field : String) : Action MemoryStore Bool := do
  let m ← access
  match m.entries.get? key with
  | some (.hash fields) => return fields.contains field
  | _ => return false

/-- Read a list; a missing one reads as empty. -/
def getList (key : String) : Action MemoryStore (List String) := do
  match ← fetch key with
  | some (.list entries) => return entries
  | some other => throw (wrongKind key .list other.kind)
  | none => return []

/-- Put an entry at the end of a list, which is made if the key is free. -/
def appendList (key value : String) : Action MemoryStore Unit := do
  let m ← access
  match m.entries.get? key with
  | some (.list entries) => write key (.list (entries ++ [value]))
  | some other => throw (wrongKind key .list other.kind)
  | none => write key (.list [value])

def deleteKey (key : String) : Action MemoryStore Unit := do
  let m ← access
  set { m with entries := m.entries.erase key }

/-- The keys that a filter covers, in order; an empty filter covers all.  The
filter is read before the store is looked at. -/
def listKeys (filter : String) : Action MemoryStore (List String) := do
  let filter := if filter.isEmpty then "*" else filter
  match Glob.parse? filter with
  | none => throw (malformedFilter filter)
  | some glob =>
      let m ← access
      return m.entries.names.filter glob.covers

def store : KeyStore MemoryStore where
  name := backendName
  probeKind key := return (← access).kindAt key
  hasKey key := return (← access).entries.contains key
  getScalar := getScalar
  setScalar key value := write key (.string value)
  getHash := getHash
  setHash key fields := write key (.hash fields)
  getHashField := getHashField
  setHashField := setHashField
  hasHashField := hasHashField
  getList := getList
  setList key entries := write key (.list entries)
  appendList := appendList
  deleteKey := deleteKey
  listKeys := listKeys

end MemoryStore

end LayeredConfig
