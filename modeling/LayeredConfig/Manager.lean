/-
The manager answers requests: it takes a store out for each of them, looks
up, and says that a key is not found where a lookup came back empty.
-/
import LayeredConfig.Lookup

namespace LayeredConfig

/-- Settings that have been checked, and where stores come from. -/
structure Manager (σ : Type) (η : Type) where
  settings : Settings
  provider : StoreProvider σ η

namespace Manager

variable {σ η α : Type}

/-- A manager for settings that can be used. -/
def new (settings : Settings) (provider : StoreProvider σ η) : Except Failure (Manager σ η) := do
  settings.validate
  return ⟨settings, provider⟩

theorem eq_of_new {settings : Settings} {provider : StoreProvider σ η} {m : Manager σ η}
    (h : new settings provider = .ok m) : m = ⟨settings, provider⟩ := by
  rw [new] at h
  cases hvalid : settings.validate with
  | error failure =>
      rw [hvalid] at h
      cases h
  | ok =>
      rw [hvalid] at h
      cases h
      rfl

/-- The scope that a request's headers define. -/
def scopeOfHeaders (m : Manager σ η) (headers : List (String × String)) : Scope :=
  Scope.ofHeaders m.settings.hdrPrefix headers

/-- Run one lookup. -/
def withEngine (m : Manager σ η) (use : Engine σ → Action σ α) : Action σ α :=
  m.provider.withStore fun store => use ⟨m.settings, store⟩

/-- Say that a key is not found if the answer is empty. -/
def orNotFound (key : String) (answer : Answer) : Action σ Answer :=
  if answer.isEmpty then throw (.keyNotFound key) else return answer

def lookupString (m : Manager σ η) (scope : Scope) (key : String) : Action σ Answer := do
  let found ← m.withEngine fun e => e.lookupScalar scope key
  orNotFound key (.string found)

def lookupHash (m : Manager σ η) (scope : Scope) (key : String) : Action σ Answer := do
  let fields ← m.withEngine fun e => e.lookupHash scope key
  orNotFound key (.hash fields)

def lookupList (m : Manager σ η) (scope : Scope) (key : String) : Action σ Answer := do
  let entries ← m.withEngine fun e => e.lookupList scope key
  orNotFound key (.list entries)

def lookupHashField (m : Manager σ η) (scope : Scope) (key field : String) : Action σ Answer := do
  let found ← m.withEngine fun e => e.lookupHashField scope key field
  return .string found

def lookupListIndex (m : Manager σ η) (scope : Scope) (key : String) (index : Int) :
    Action σ Answer := do
  let found ← m.withEngine fun e => e.lookupListIndex scope key index
  return .string found

end Manager

end LayeredConfig
