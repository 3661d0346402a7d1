/-
Writes through a connection.  As long as commands get through, the server puts
what a write results in under its key; a collection with nothing in it is not
there, and a write that is refused changes nothing.
-/
import LayeredConfig.Proofs.ServerView
import LayeredConfig.Proofs.Writes

namespace LayeredConfig

open LayeredConfig.Action
open LayeredConfig.Server (Command Reply)

namespace StoredValue

/-- Is there anything in the value?  A text always is something. -/
def hasContent : StoredValue → Bool
  | string _ => true
  | hash fields => !fields.isEmpty
  | list entries => !entries.isEmpty

/-- What is under a key of the server that has this value in memory. -/
def onServer? (value : Option StoredValue) : Option Server.Value :=
  (value.filter hasContent).map onServer

theorem onServer?_some {value : StoredValue} (h : value.hasContent = true) :
    onServer? (some value) = some value.onServer := by
  rw [onServer?, Option.filter_some_pos h, Option.map_some]

theorem onServer?_some_empty {value : StoredValue} (h : value.hasContent = false) :
    onServer? (some value) = none := by
  rw [onServer?, Option.filter_some_neg (by simp [h]), Option.map_none]

end StoredValue

namespace Server.Data

variable {data : Server.Data}

theorem get?_withFields {added : List (String × String)}
    (hsorted : added.Pairwise fun a b => a.1 < b.1) (present : NameMap ByteArray)
    (field : String) :
    (withFields present added).get? field =
      (((NameMap.find? field added).map String.toUTF8).or (present.get? field)) := by
  induction added generalizing present with
  | nil => rfl
  | cons head rest ih =>
      obtain ⟨hhead, hrest⟩ := List.pairwise_cons.1 hsorted
      have ih := ih hrest (present.insert head.1 head.2.toUTF8)
      rw [withFields] at ih ⊢
      rw [List.foldl_cons, ih, NameMap.get?_insert, NameMap.find?]
      split
      · next h =>
          subst h
          rw [NameMap.find?_eq_none_of_lt hhead]
          rfl
      · rfl

/-- The fields of a hash, put into an empty one. -/
theorem withFields_empty (fields : NameMap String) :
    withFields NameMap.empty fields.entries = fields.map String.toUTF8 := by
  apply NameMap.ext_get?
  intro field
  rw [get?_withFields fields.sorted, NameMap.get?_map, NameMap.get?_empty, Option.or_none]
  rfl

/-- A value is put in place of what is there by two commands, and one with
nothing in it only takes away what is there. -/
theorem executeAll_replace {key : String} {value : StoredValue} {command : Command} {hollow : Bool}
    (hhollow : value.hasContent = !hollow)
    (hput : (execute (NameMap.erase data key) command).2 =
      NameMap.insert (NameMap.erase data key) key value.onServer) :
    data.executeAll (.delete key :: if hollow then [] else [command]) =
      NameMap.assign data key (StoredValue.onServer? (some value)) := by
  cases hollow with
  | true =>
      rw [StoredValue.onServer?_some_empty hhollow]
      rfl
  | false =>
      rw [StoredValue.onServer?_some hhollow]
      exact hput.trans (NameMap.insert_erase data key _)

end Server.Data

namespace Connection

variable {connection : Connection} {data : Server.Data} {state : PoolState}
  {entries : NameMap StoredValue}

theorem Serving.after_ask (h : connection.Serving data state) {α : Type} (word key : String)
    (command : Command) (read? : Reply → Option α) :
    connection.Serving (data.execute command).2
      ((connection.ask word key command read?).outcome state).2 := by
  rw [h.outcome_ask]
  exact h.withData _

theorem Serving.after_transact (h : connection.Serving data state) (word key : String)
    (commands : List Command) :
    connection.Serving (data.executeAll commands)
      ((connection.transact word key commands).outcome state).2 := by
  rw [transact, outcome_bind_of_ok (h.outcome_reach word key), ← h.data_eq]
  exact h.withData _

section Writes

variable (h : connection.Serving data state)
include h

theorem Serving.after_setHash (key : String) (fields : NameMap String) :
    connection.Serving (NameMap.assign data key (StoredValue.onServer? (some (.hash fields))))
      ((connection.setHash key fields).outcome state).2 := by
  have herased : Server.Data.hashAt? (NameMap.erase data key) key = some NameMap.empty := by
    rw [Server.Data.hashAt?, NameMap.get?_erase, if_pos rfl]
  have hput : (Server.Data.execute (NameMap.erase data key) (.setFields key fields.entries)).2 =
      NameMap.insert (NameMap.erase data key) key (StoredValue.hash fields).onServer := by
    rw [Server.Data.execute, herased]
    simp only [Server.Data.withFields_empty]
    rfl
  rw [← Server.Data.executeAll_replace rfl hput]
  exact h.after_transact "HSET" key _

theorem Serving.after_setList (key : String) (entries : List String) :
    connection.Serving (NameMap.assign data key (StoredValue.onServer? (some (.list entries))))
      ((connection.setList key entries).outcome state).2 := by
  have herased : Server.Data.listAt? (NameMap.erase data key) key = some [] := by
    rw [Server.Data.listAt?, NameMap.get?_erase, if_pos rfl]
  have hput : (Server.Data.execute (NameMap.erase data key) (.append key entries)).2 =
      NameMap.insert (NameMap.erase data key) key (StoredValue.list entries).onServer := by
    rw [Server.Data.execute, herased]
    rfl
  rw [← Server.Data.executeAll_replace rfl hput]
  exact h.after_transact "RPUSH" key _

variable (hholds : data.Holds entries)
  (hcontent : ∀ key value, entries.get? key = some value → value.hasContent = true)
include hholds hcontent

/-- A write that finds a value of another kind leaves the server as it is. -/
theorem Serving.after_refusal {key : String} {stored : StoredValue}
    (hstored : entries.get? key = some stored) :
    connection.Serving (NameMap.assign data key (StoredValue.onServer? (some stored))) state := by
  have hsame : data.get? key = StoredValue.onServer? (some stored) := by
    rw [StoredValue.onServer?_some (hcontent key stored hstored), hholds, hstored]
    rfl
  rw [← hsame, NameMap.assign_get?]
  exact h

theorem Serving.after_setHashField (key field value : String) :
    connection.Serving
      (NameMap.assign data key
        (StoredValue.onServer? ((Write.setHashField key field value).result (entries.get? key))))
      ((connection.setHashField key field value).outcome state).2 := by
  obtain ⟨left, hleft, hprobe⟩ := gives_probeKind hholds key state h
  rw [setHashField, outcome_bind_of_ok hprobe]
  have hset := hleft.after_ask "HSET" key (.setFields key [(field, value)]) readDone?
  have hat : data.get? key = (entries.get? key).map StoredValue.onServer := hholds key
  rw [Server.Data.execute, Server.Data.hashAt?, hat] at hset
  -- the probe tells what is stored, and only a free key or a hash is written to
  cases hstored : entries.get? key with
  | none =>
      rw [hstored] at hset
      exact hset
  | some stored =>
      cases stored with
      | hash fields =>
          have hfull : (StoredValue.hash (fields.insert field value)).hasContent = true := by
            rw [StoredValue.hasContent, NameMap.isEmpty_insert]
            rfl
          rw [hstored] at hset
          simp only [Write.result]
          rw [StoredValue.onServer?_some hfull, StoredValue.onServer, NameMap.map_insert]
          exact hset
      | string text => exact hleft.after_refusal hholds hcontent hstored
      | list entries => exact hleft.after_refusal hholds hcontent hstored

theorem Serving.after_appendList (key value : String) :
    connection.Serving
      (NameMap.assign data key
        (StoredValue.onServer? ((Write.appendList key value).result (entries.get? key))))
      ((connection.store.appendList key value).outcome state).2 := by
  have hset := h.after_ask "RPUSH" key (.append key [value]) readDone?
  have hat : data.get? key = (entries.get? key).map StoredValue.onServer := hholds key
  change connection.Serving _ ((connection.ask "RPUSH" key (.append key [value]) _).outcome state).2
  generalize ((connection.ask "RPUSH" key (.append key [value]) readDone?).outcome state).2 = left
    at hset ⊢
  rw [Server.Data.execute, Server.Data.listAt?, hat] at hset
  -- nothing is probed here: the server itself refuses to append to another kind
  cases hstored : entries.get? key with
  | none =>
      rw [hstored] at hset
      exact hset
  | some stored =>
      rw [hstored] at hset
      cases stored with
      | list entries =>
          have hfull : (StoredValue.list (entries ++ [value])).hasContent = true := by
            simp [StoredValue.hasContent]
          simp only [Write.result]
          rw [StoredValue.onServer?_some hfull, StoredValue.onServer, List.map_append]
          exact hset
      | string text => exact Serving.after_refusal hset hholds hcontent hstored
      | hash fields => exact Serving.after_refusal hset hholds hcontent hstored

/-- A write through a connection puts what it results in under its key. -/
theorem Serving.after_write (w : Write) :
    connection.Serving
      (NameMap.assign data w.key (StoredValue.onServer? (w.result (entries.get? w.key))))
      ((connection.store.write w).outcome state).2 := by
  cases w with
  | setScalar key value => exact h.after_ask "SET" key (.set key value) readDone?
  | setHash key fields => exact h.after_setHash key fields
  | setHashField key field value => exact h.after_setHashField hholds hcontent key field value
  | setList key entries => exact h.after_setList key entries
  | appendList key value => exact h.after_appendList hholds hcontent key value
  | storeValue key value =>
      cases value with
      | string text => exact h.after_ask "SET" key (.set key text) readDone?
      | hash fields => exact h.after_setHash key fields
      | list entries => exact h.after_setList key entries
  | deleteKey key => exact h.after_ask "DEL" key (.delete key) readDone?

end Writes

end Connection

end LayeredConfig
