/-
A connection to a server shows what the server holds.  As long as commands get
through, every read is answered from the server's data and changes nothing, and
texts come back as they were stored.
-/
import LayeredConfig.Pool.Connection
import LayeredConfig.Proofs.Shows

namespace LayeredConfig

open LayeredConfig.Action
open LayeredConfig.Server (Command Reply)

/-- A stored value as the server keeps it. -/
def StoredValue.onServer : StoredValue → Server.Value
  | string value => .string value.toUTF8
  | hash fields => .hash (fields.map String.toUTF8)
  | list entries => .list (entries.map String.toUTF8)

theorem StoredValue.kindName_onServer (value : StoredValue) :
    value.onServer.kindName = value.kind.tag := by
  cases value <;> rfl

/-- The server holds just these entries. -/
def Server.Data.Holds (data : Server.Data) (entries : NameMap StoredValue) : Prop :=
  ∀ key, data.get? key = (entries.get? key).map StoredValue.onServer

namespace Connection

/-- Commands on the connection get through to a server that holds the data. -/
structure Serving (connection : Connection) (data : Server.Data) (state : PoolState) : Prop where
  isOpen : connection.isOpen state = true
  reaches : state.server.reaches connection = true
  data_eq : state.server.data = data

variable {connection : Connection} {data : Server.Data} {state : PoolState}

theorem Serving.outcome_reach (h : connection.Serving data state) (word key : String) :
    (connection.reach word key).outcome state = (.ok state, state) := by
  have hget : (get : Action PoolState PoolState).outcome state = (.ok state, state) := rfl
  rw [reach, outcome_bind_of_ok hget, h.isOpen, h.reaches]
  rfl

/-- The state after the server's data have changed. -/
theorem Serving.withData (h : connection.Serving data state) (after : Server.Data) :
    connection.Serving after { state with server := { state.server with data := after } } :=
  ⟨h.isOpen, h.reaches, rfl⟩

/-- A command is carried out, and its reply read. -/
theorem Serving.outcome_ask (h : connection.Serving data state) {α : Type} (word key : String)
    (command : Command) (read? : Reply → Option α) :
    (connection.ask word key command read?).outcome state =
      ((read? (data.execute command).1).elim (.error (refused word key)) .ok,
        { state with server := { state.server with data := (data.execute command).2 } }) := by
  rw [ask, outcome_bind_of_ok (h.outcome_reach word key), ← h.data_eq]
  obtain ⟨reply, after⟩ := state.server.data.execute command
  let next : PoolState := { state with server := { state.server with data := after } }
  have hset : (set next : Action PoolState PUnit).outcome state = (.ok ⟨⟩, next) := rfl
  simp only
  rw [outcome_bind_of_ok hset]
  cases read? reply <;> rfl

/-- A command that only reads gives what its reply says. -/
theorem gives_ask {α : Type} {word key : String} {command : Command} {reply : Reply}
    {read? : Reply → Option α} {answer : α} (hexecute : data.execute command = (reply, data))
    (hread : read? reply = some answer) :
    Gives (connection.Serving data) (connection.ask word key command read?) (.ok answer) := by
  intro state h
  refine ⟨_, h.withData data, ?_⟩
  rw [h.outcome_ask, hexecute, hread]
  rfl

theorem readText?_toUTF8 (text : String) : readText? (.bytes text.toUTF8) = some text :=
  Text.fromUTF8?_toUTF8 text

theorem readTexts?_toUTF8 (texts : List String) :
    readTexts? (.entries (texts.map String.toUTF8)) = some texts :=
  mapM_map_eq_some Text.fromUTF8?_toUTF8 texts

theorem readFields?_toUTF8 (fields : NameMap String) :
    readFields? (.fields (fields.map String.toUTF8).entries) = some fields.entries := by
  apply mapM_map_eq_some
  intro field
  rw [Text.fromUTF8?_toUTF8]
  rfl

section Reads

variable {entries : NameMap StoredValue}

theorem gives_probeKind (h : data.Holds entries) (name : String) :
    Gives (connection.Serving data) (connection.probeKind name)
      (.ok (((entries.get? name).map StoredValue.kind).getD .none)) := by
  have hword : (data.get? name).elim "none" Server.Value.kindName =
      (((entries.get? name).map StoredValue.kind).getD .none).tag := by
    rw [h]
    cases entries.get? name with
    | none => rfl
    | some value => exact value.kindName_onServer
  have hexecute : data.execute (.kind name) =
      (.word (((entries.get? name).map StoredValue.kind).getD .none).tag, data) := by
    rw [Server.Data.execute, hword]
  have hask : Gives _ (connection.ask "TYPE" name (.kind name) readWord?) _ :=
    gives_ask hexecute rfl
  apply hask.bind_ok
  rw [KeyKind.ofTag?_tag]
  exact Gives.pure _

theorem hashAt?_of_holds (h : data.Holds entries) {name : String} {fields : NameMap String}
    (hstored : entries.get? name = some (.hash fields)) :
    data.hashAt? name = some (fields.map String.toUTF8) := by
  rw [Server.Data.hashAt?, h, hstored]
  rfl

end Reads

/-- A connection to a server that holds the entries of a view shows them. -/
theorem shows (connection : Connection) {data : Server.Data} (v : View)
    (h : data.Holds v.entries) :
    (connection.store.withFieldOrder v.order).Shows (connection.Serving data) v where
  holds := by
    intro wanted name _
    have hkind : v.kindAt name = ((v.entries.get? name).map StoredValue.kind).getD .none := by
      rw [View.kindAt]
      cases v.entries.get? name <;> rfl
    rw [hkind]
    exact (gives_probeKind h name).observe.bind_ok (Gives.pure _)
  getScalar := by
    intro name text hstored
    have hexecute : data.execute (.get name) = (.bytes text.toUTF8, data) := by
      rw [Server.Data.execute, h, hstored]
      rfl
    change Gives _ (connection.ask "GET" name (.get name) readText?) _
    exact gives_ask hexecute (readText?_toUTF8 text)
  getHash := by
    intro name fields hstored
    have hexecute : data.execute (.getFields name) =
        (.fields (fields.map String.toUTF8).entries, data) := by
      rw [Server.Data.execute, hashAt?_of_holds h hstored]
    have hread : Gives _ (connection.ask "HGETALL" name (.getFields name) readFields?) _ :=
      gives_ask hexecute (readFields?_toUTF8 fields)
    exact hread.bind_ok (Gives.pure _)
  hasHashField := by
    intro name fields field hstored
    have hexecute : data.execute (.hasField name field) =
        (.truth (fields.contains field), data) := by
      rw [Server.Data.execute, hashAt?_of_holds h hstored]
      simp [NameMap.contains, NameMap.get?_map]
    change Gives _ (connection.ask "HEXISTS" name (.hasField name field) readTruth?) _
    exact gives_ask hexecute rfl
  getHashField := by
    intro name fields field text hstored hfield
    have hexecute : data.execute (.getField name field) = (.bytes text.toUTF8, data) := by
      rw [Server.Data.execute, hashAt?_of_holds h hstored]
      simp [NameMap.get?_map, hfield]
    change Gives _ (connection.ask "HGET" name (.getField name field) readText?) _
    exact gives_ask hexecute (readText?_toUTF8 text)
  getList := by
    intro name entries hstored
    have hexecute : data.execute (.getEntries name) =
        (.entries (entries.map String.toUTF8), data) := by
      rw [Server.Data.execute, Server.Data.listAt?, h, hstored]
      rfl
    change Gives _ (connection.ask "LRANGE" name (.getEntries name) readTexts?) _
    exact gives_ask hexecute (readTexts?_toUTF8 entries)

end Connection
end LayeredConfig
