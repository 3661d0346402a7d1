/-
Stores of typed values under keys, seen from outside: whatever can hold
strings, hashes and lists.  A store is a machine, and every operation may
change its state, also one that fails.
-/
import LayeredConfig.StoredValue

namespace LayeredConfig

universe u

/-- An operation on a state: it answers or fails, and leaves a state either
way. -/
abbrev Action (σ : Type) := ExceptT Failure (StateM σ)

namespace Action

variable {σ : Type} {α : Type}

/-- The outcome of an action and the state it leaves. -/
def outcome (action : Action σ α) (state : σ) : Except Failure α × σ :=
  (ExceptT.run action).run state

/-- Turn the failure of an action into an answer. -/
def observe (action : Action σ α) : Action σ (Except Failure α) :=
  ExceptT.lift (ExceptT.run action)

def ofExcept (result : Except Failure α) : Action σ α :=
  ExceptT.mk (pure result)

end Action

/-- A store of typed values.  A scalar is a single string; `getHash` gives the
fields in whatever order the store keeps them. -/
structure KeyStore (σ : Type) where
  name : String
  probeKind : (key : String) → Action σ KeyKind
  hasKey : (key : String) → Action σ Bool
  getScalar : (key : String) → Action σ String
  setScalar : (key value : String) → Action σ Unit
  getHash : (key : String) → Action σ (List (String × String))
  setHash : (key : String) → (fields : NameMap String) → Action σ Unit
  getHashField : (key field : String) → Action σ String
  setHashField : (key field value : String) → Action σ Unit
  hasHashField : (key field : String) → Action σ Bool
  getList : (key : String) → Action σ (List String)
  setList : (key : String) → (entries : List String) → Action σ Unit
  appendList : (key value : String) → Action σ Unit
  deleteKey : (key : String) → Action σ Unit
  listKeys : (filter : String) → Action σ (List String)

namespace KeyStore

variable {σ : Type}

/-- Store a value of any kind under a key, in place of what is there. -/
def storeValue (store : KeyStore σ) (key : String) : StoredValue → Action σ Unit
  | .string value => store.setScalar key value
  | .hash fields => store.setHash key fields
  | .list entries => store.setList key entries

/-- A store that answers the probe of some keys in its own way. -/
def withProbe (store : KeyStore σ) (reply? : String → Option (Except Failure KeyKind)) :
    KeyStore σ :=
  { store with
    probeKind := fun key =>
      match reply? key with
      | some reply => Action.ofExcept reply
      | none => store.probeKind key }

end KeyStore

/-- Where stores come from: a handle is taken out, used as a store, and given
back, whatever happened in between. -/
structure StoreProvider (σ : Type) (η : Type) where
  checkout : Action σ η
  store : η → KeyStore σ
  giveBack : η → StateM σ Unit

namespace StoreProvider

variable {σ η α : Type}

/-- Use a store for the time of one action. -/
def withStore (provider : StoreProvider σ η) (use : KeyStore σ → Action σ α) : Action σ α := do
  let handle ← provider.checkout
  let result ← Action.observe (use (provider.store handle))
  ExceptT.lift (provider.giveBack handle)
  Action.ofExcept result

/-- A store that is there all the time. -/
def always (store : KeyStore σ) : StoreProvider σ Unit :=
  ⟨pure (), fun _ => store, fun _ => pure ()⟩

/-- A provider that never hands out a store. -/
def refusing (failure : Failure) (store : KeyStore σ) : StoreProvider σ Unit :=
  ⟨throw failure, fun _ => store, fun _ => pure ()⟩

end StoreProvider

end LayeredConfig
