/-
Writes through the port of a store.  A write concerns one key, and what is
under that key afterwards follows from what was there before; a write into a
value of another kind is refused and leaves everything as it is.
-/
import LayeredConfig.Proofs.MemoryView

namespace LayeredConfig

open LayeredConfig.Action

namespace NameMap

variable {β : Type}

/-- Give a name a value, or take its value away. -/
def assign (m : NameMap β) (name : String) : Option β → NameMap β
  | some value => m.insert name value
  | none => m.erase name

theorem get?_assign (m : NameMap β) (name other : String) (value : Option β) :
    (m.assign name value).get? other = if other = name then value else m.get? other := by
  cases value with
  | none => exact get?_erase m name other
  | some value => exact get?_insert m name other value

theorem assign_get? (m : NameMap β) (name : String) : m.assign name (m.get? name) = m := by
  apply ext_get?
  intro other
  rw [get?_assign]
  split
  · next h => rw [h]
  · rfl

end NameMap

/-- What can be written through a store's port. -/
inductive Write where
  | setScalar (key value : String)
  | setHash (key : String) (fields : NameMap String)
  | setHashField (key field value : String)
  | setList (key : String) (entries : List String)
  | appendList (key value : String)
  | storeValue (key : String) (value : StoredValue)
  | deleteKey (key : String)
deriving DecidableEq

namespace Write

def key : Write → String
  | setScalar key _ => key
  | setHash key _ => key
  | setHashField key _ _ => key
  | setList key _ => key
  | appendList key _ => key
  | storeValue key _ => key
  | deleteKey key => key

/-- What is under the key of a write after it, by what was there before. -/
def result : Write → Option StoredValue → Option StoredValue
  | setScalar _ value, _ => some (.string value)
  | setHash _ fields, _ => some (.hash fields)
  | setHashField _ field value, none => some (.hash (NameMap.empty.insert field value))
  | setHashField _ field value, some (.hash fields) => some (.hash (fields.insert field value))
  | setHashField _ _ _, some other => some other
  | setList _ entries, _ => some (.list entries)
  | appendList _ value, none => some (.list [value])
  | appendList _ value, some (.list entries) => some (.list (entries ++ [value]))
  | appendList _ _, some other => some other
  | storeValue _ value, _ => some value
  | deleteKey _, _ => none

end Write

namespace KeyStore

variable {σ : Type}

def write (store : KeyStore σ) : Write → Action σ Unit
  | .setScalar key value => store.setScalar key value
  | .setHash key fields => store.setHash key fields
  | .setHashField key field value => store.setHashField key field value
  | .setList key entries => store.setList key entries
  | .appendList key value => store.appendList key value
  | .storeValue key value => store.storeValue key value
  | .deleteKey key => store.deleteKey key

/-- The state after writes have been tried one after another; those that fail
do not keep the others from being tried. -/
def afterWrites (store : KeyStore σ) (writes : List Write) (state : σ) : σ :=
  writes.foldl (fun state write => ((store.write write).outcome state).2) state

end KeyStore

namespace MemoryStore

variable {m : MemoryStore}

theorem outcome_set (h : m.unavailable = false) (key : String) (value : StoredValue) :
    (write key value).outcome m = (.ok (), { m with entries := m.entries.insert key value }) := by
  rw [write, outcome_bind_of_ok (outcome_access h)]
  rfl

theorem outcome_storeValue (h : m.unavailable = false) (key : String) (value : StoredValue) :
    (store.storeValue key value).outcome m =
      (.ok (), { m with entries := m.entries.insert key value }) := by
  cases value <;> exact outcome_set h key _

/-- A value put where it is already. -/
theorem assign_stored {key : String} {stored : StoredValue}
    (hstored : m.entries.get? key = some stored) :
    { m with entries := m.entries.assign key (some stored) } = m := by
  rw [← hstored, NameMap.assign_get?]

/-- A store in memory that is available puts what a write results in under its
key, and changes nothing else. -/
theorem after_write (h : m.unavailable = false) (w : Write) :
    ((store.write w).outcome m).2 =
      { m with entries := m.entries.assign w.key (w.result (m.entries.get? w.key)) } := by
  cases w with
  | setScalar key value => exact congrArg Prod.snd (outcome_set h key _)
  | setHash key fields => exact congrArg Prod.snd (outcome_set h key _)
  | setHashField key field value =>
      change ((setHashField key field value).outcome m).2 = { m with
        entries := m.entries.assign key
          ((Write.setHashField key field value).result (m.entries.get? key)) }
      rw [setHashField, outcome_bind_of_ok (outcome_access h)]
      cases hstored : m.entries.get? key with
      | none => exact congrArg Prod.snd (outcome_set h key _)
      | some stored =>
          cases stored with
          | hash fields => exact congrArg Prod.snd (outcome_set h key _)
          | string text => exact (assign_stored hstored).symm
          | list entries => exact (assign_stored hstored).symm
  | setList key entries => exact congrArg Prod.snd (outcome_set h key _)
  | appendList key value =>
      change ((appendList key value).outcome m).2 = { m with
        entries := m.entries.assign key
          ((Write.appendList key value).result (m.entries.get? key)) }
      rw [appendList, outcome_bind_of_ok (outcome_access h)]
      cases hstored : m.entries.get? key with
      | none => exact congrArg Prod.snd (outcome_set h key _)
      | some stored =>
          cases stored with
          | list entries => exact congrArg Prod.snd (outcome_set h key _)
          | string text => exact (assign_stored hstored).symm
          | hash fields => exact (assign_stored hstored).symm
  | storeValue key value => exact congrArg Prod.snd (outcome_storeValue h key value)
  | deleteKey key =>
      change ((deleteKey key).outcome m).2 = _
      rw [deleteKey, outcome_bind_of_ok (outcome_access h)]
      rfl

end MemoryStore

end LayeredConfig
