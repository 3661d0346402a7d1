/-
A connection to the server as a store.  Every operation is one command, or
several that are carried out at once; a failure names the command and the key.
-/
import LayeredConfig.KeyStore
import LayeredConfig.Pool.Slots
import LayeredConfig.Server

namespace LayeredConfig

/-- A server and the pool of connections to it: the slots, and the
connections on which a command was lost. -/
structure PoolState where
  server : Server
  broken : List Connection := []
  slots : Pool.Slots Connection := {}
deriving DecidableEq

namespace Connection

open Server (Command Reply)

/-- The name under which the store reports failures. -/
def backendName : String := "redis"

/-- The words about a command that failed. -/
def failedCommand (word key : String) : String := word ++ " " ++ key ++ " failed: "

/-- The failure of a command that the server answered with an error, or with
something that cannot be read. -/
def refused (word key : String) : Failure :=
  .backend backendName (failedCommand word key) (some "")

/-- The failure of a command that got no answer. -/
def lost (word key : String) : Failure :=
  .backendUnavailable backendName (failedCommand word key) (some "")

/-- Has no command been lost on the connection? -/
def isOpen (connection : Connection) (state : PoolState) : Bool :=
  !state.broken.contains connection

/-- Make sure that the server can still be reached. -/
def reach (connection : Connection) (word key : String) : Action PoolState PoolState := do
  let state ← get
  if connection.isOpen state && state.server.reaches connection then return state
  set { state with broken := connection :: state.broken }
  throw (lost word key)

/-- Have a command carried out and read the reply. -/
def ask {α : Type} (connection : Connection) (word key : String) (command : Command)
    (read? : Reply → Option α) : Action PoolState α := do
  let state ← connection.reach word key
  let (reply, data) := state.server.data.execute command
  set { state with server := { state.server with data := data } }
  match read? reply with
  | some answer => return answer
  | none => throw (refused word key)

/-- Have commands carried out at once. -/
def transact (connection : Connection) (word key : String) (commands : List Command) :
    Action PoolState Unit := do
  let state ← connection.reach word key
  set { state with
    server := { state.server with data := state.server.data.executeAll commands } }

/-- The reply to a command that changes something. -/
def readDone? : Reply → Option Unit
  | .done => some ()
  | _ => none

/-- The word that is the reply. -/
def readWord? : Reply → Option String
  | .word text => some text
  | _ => none

def readTruth? : Reply → Option Bool
  | .truth value => some value
  | _ => none

def readText? : Reply → Option String
  | .bytes value => String.fromUTF8? value
  | _ => none

/-- The entries that are the reply, if all are texts. -/
def readTexts? : Reply → Option (List String)
  | .entries values => values.mapM fun value => String.fromUTF8? value
  | _ => none

/-- The fields that are the reply, if all values are texts. -/
def readFields? : Reply → Option (List (String × String))
  | .fields values => values.mapM fun field => (String.fromUTF8? field.2).map (field.1, ·)
  | _ => none

def readNames? : Reply → Option (List String)
  | .names keys => some keys
  | _ => none

/-- Ask for a sign of life. -/
def ping (connection : Connection) : Action PoolState Unit := do
  let _ ← connection.ask "PING" "" .ping readWord?

def probeKind (connection : Connection) (key : String) : Action PoolState KeyKind := do
  let kind ← connection.ask "TYPE" key (.kind key) readWord?
  match KeyKind.ofTag? kind with
  | some kind => return kind
  | none => throw (.unsupportedKeyType key kind)

/-- Put fields in place of what is under a key. -/
def setHash (connection : Connection) (key : String) (fields : NameMap String) :
    Action PoolState Unit :=
  connection.transact "HSET" key <|
    .delete key :: if fields.isEmpty then [] else [.setFields key fields.entries]

/-- Set one field of a hash, which is made if the key is free. -/
def setHashField (connection : Connection) (key field value : String) :
    Action PoolState Unit := do
  match ← connection.probeKind key with
  | .none | .hash => connection.ask "HSET" key (.setFields key [(field, value)]) readDone?
  | other =>
      throw (.backend backendName
        ("Cannot set field " ++ field ++ " on " ++ other.tag ++ " key " ++ key) none)

/-- Put entries in place of what is under a key. -/
def setList (connection : Connection) (key : String) (entries : List String) :
    Action PoolState Unit :=
  connection.transact "RPUSH" key <|
    .delete key :: if entries.isEmpty then [] else [.append key entries]

/-- The keys that a filter covers, in order; an empty filter covers all. -/
def listKeys (connection : Connection) (filter : String) : Action PoolState (List String) :=
  let pattern := if filter.isEmpty then "*" else filter
  connection.ask "KEYS" pattern (.keys pattern) readNames?

def store (connection : Connection) : KeyStore PoolState where
  name := backendName
  probeKind := connection.probeKind
  hasKey key := connection.ask "EXISTS" key (.hasKey key) readTruth?
  getScalar key := connection.ask "GET" key (.get key) readText?
  setScalar key value := connection.ask "SET" key (.set key value) readDone?
  getHash key := connection.ask "HGETALL" key (.getFields key) readFields?
  setHash := connection.setHash
  getHashField key field := connection.ask "HGET" key (.getField key field) readText?
  setHashField := connection.setHashField
  hasHashField key field := connection.ask "HEXISTS" key (.hasField key field) readTruth?
  getList key := connection.ask "LRANGE" key (.getEntries key) readTexts?
  setList := connection.setList
  appendList key value := connection.ask "RPUSH" key (.append key [value]) readDone?
  deleteKey key := connection.ask "DEL" key (.delete key) readDone?
  listKeys := connection.listKeys

end Connection

end LayeredConfig
