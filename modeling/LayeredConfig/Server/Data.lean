/-
The data of the key-value server and the commands that it carries out.  What
it stores are plain bytes.  A command on a key of another kind is refused and
changes nothing.
-/
import LayeredConfig.Bytes
import LayeredConfig.NameMap
import LayeredConfig.Server.Wildcard

namespace LayeredConfig.Server

/-- A value on the server.  Of a kind that is not used here only the name is
known. -/
inductive Value where
  | string (bytes : ByteArray)
  | list (entries : List ByteArray)
  | hash (fields : NameMap ByteArray)
  | other (kind : String)
deriving DecidableEq

def Value.kindName : Value → String
  | string _ => "string"
  | list _ => "list"
  | hash _ => "hash"
  | other kind => kind

abbrev Data := NameMap Value

inductive Command where
  | ping
  | kind (key : String)
  | hasKey (key : String)
  | get (key : String)
  | set (key value : String)
  | delete (key : String)
  | getFields (key : String)
  | getField (key field : String)
  | hasField (key field : String)
  | setFields (key : String) (fields : List (String × String))
  | getEntries (key : String)
  | append (key : String) (entries : List String)
  | keys (pattern : String)
deriving DecidableEq, Repr

inductive Reply where
  | done
  | nothing
  | word (text : String)
  | truth (value : Bool)
  | bytes (value : ByteArray)
  | entries (values : List ByteArray)
  | fields (values : List (String × ByteArray))
  | names (keys : List String)
  | wrongKind
deriving DecidableEq

namespace Data

/-- The fields under a key, if it is free or holds a hash. -/
def hashAt? (data : Data) (key : String) : Option (NameMap ByteArray) :=
  match data.get? key with
  | none => some NameMap.empty
  | some (.hash fields) => some fields
  | some _ => none

/-- The entries under a key, if it is free or holds a list. -/
def listAt? (data : Data) (key : String) : Option (List ByteArray) :=
  match data.get? key with
  | none => some []
  | some (.list entries) => some entries
  | some _ => none

/-- Fields with others set in them, the last one of a name counting. -/
def withFields (fields : NameMap ByteArray) (added : List (String × String)) :
    NameMap ByteArray :=
  added.foldl (fun fields field => fields.insert field.1 field.2.toUTF8) fields

def execute (data : Data) : Command → Reply × Data
  | .ping => (.word "PONG", data)
  | .kind key => (.word ((data.get? key).elim "none" Value.kindName), data)
  | .hasKey key => (.truth (data.contains key), data)
  | .get key =>
      match data.get? key with
      | none => (.nothing, data)
      | some (.string bytes) => (.bytes bytes, data)
      | some _ => (.wrongKind, data)
  | .set key value => (.done, data.insert key (.string value.toUTF8))
  | .delete key => (.done, data.erase key)
  | .getFields key =>
      match data.hashAt? key with
      | some fields => (.fields fields.entries, data)
      | none => (.wrongKind, data)
  | .getField key field =>
      match data.hashAt? key with
      | some fields => ((fields.get? field).elim .nothing .bytes, data)
      | none => (.wrongKind, data)
  | .hasField key field =>
      match data.hashAt? key with
      | some fields => (.truth (fields.contains field), data)
      | none => (.wrongKind, data)
  | .setFields key fields =>
      match data.hashAt? key with
      | some present => (.done, data.insert key (.hash (withFields present fields)))
      | none => (.wrongKind, data)
  | .getEntries key =>
      match data.listAt? key with
      | some entries => (.entries entries, data)
      | none => (.wrongKind, data)
  | .append key entries =>
      match data.listAt? key with
      | some present => (.done, data.insert key (.list (present ++ entries.map String.toUTF8)))
      | none => (.wrongKind, data)
  | .keys pattern => (.names (data.names.filter (wildcardCovers pattern)), data)

/-- Carry out commands one after another, with nothing in between. -/
def executeAll (data : Data) (commands : List Command) : Data :=
  commands.foldl (fun data command => (data.execute command).2) data

end Data

end LayeredConfig.Server
