/-
Lookups over the layers of the configuration.  For a scope the configured
templates give a search path; a key is probed under each of its paths.  The
most specific scalar wins, hashes are united with the more specific fields on
top, lists are put one after another.  References inside values are replaced,
and lookups made for them do the same with the values that they read, down to
a depth limit.
-/
import LayeredConfig.Answer
import LayeredConfig.Fragment
import LayeredConfig.KeyStore
import LayeredConfig.PathTemplate
import LayeredConfig.Settings

namespace LayeredConfig

/-- What a lookup works with. -/
structure Engine (σ : Type) where
  settings : Settings
  store : KeyStore σ

namespace Engine

variable {σ : Type}

/-- Does a full key hold a value of the wanted kind?  A key that cannot be
probed counts as one that does not, unless the store cannot be reached. -/
def holds (e : Engine σ) (wanted : KeyKind) (name : String) : Action σ Bool := do
  match ← Action.observe (e.store.probeKind name) with
  | .ok kind => return kind == wanted
  | .error failure => if failure.isConnectivity then throw failure else return false

/-- The full keys of a key under these paths which hold the wanted kind. -/
def existingKeys (e : Engine σ) (key : String) (wanted : KeyKind) :
    (paths : List String) → Action σ (List String)
  | [] => return []
  | path :: rest => do
      let name := e.settings.absoluteKey path key
      let found ← e.holds wanted name
      let others ← e.existingKeys key wanted rest
      return if found then name :: others else others

/-- The full keys of a key in the layers of a scope which hold the wanted
kind, lowest precedence first. -/
def candidateKeys (e : Engine σ) (key : String) (wanted : KeyKind) (scope : Scope) :
    Action σ (List String) :=
  e.existingKeys key wanted (PathTemplate.resolvePaths e.settings.keyPaths scope)

section Reading

variable (e : Engine σ) (expand : String → Action σ String) (scope : Scope)

/-- Look a scalar up.  Every candidate is expanded, the last one is kept; the
empty value says that there is none. -/
def scalarBy (key : String) : Action σ Sourced := do
  let names ← e.candidateKeys key .string scope
  names.foldlM (fun _ name => do
    let raw ← e.store.getScalar name
    let value ← expand raw
    return ⟨value, name⟩) {}

/-- Lay the fields of one hash over what has been gathered. -/
def mergeFields (name : String) (merged : NameMap Sourced) (fields : List (String × String)) :
    Action σ (NameMap Sourced) :=
  fields.foldlM (fun merged field => do
    let value ← expand field.2
    return merged.insert field.1 ⟨value, name⟩) merged

/-- Look a hash up: the union of all candidates, later ones on top. -/
def hashBy (key : String) : Action σ (NameMap Sourced) := do
  let names ← e.candidateKeys key .hash scope
  names.foldlM (fun merged name => do
    let fields ← e.store.getHash name
    mergeFields expand name merged fields) NameMap.empty

/-- Look one field of a hash up, among the candidates that have it. -/
def hashFieldBy (key field : String) : Action σ Sourced := do
  let names ← e.candidateKeys key .hash scope
  let found ← names.foldlM (fun found name => do
    if ← e.store.hasHashField name field then
      let raw ← e.store.getHashField name field
      let value ← expand raw
      return some ⟨value, name⟩
    else return found) (none : Option Sourced)
  match found with
  | some value => return value
  | none => throw (.hashFieldNotFound key field)

/-- Look a list up: the entries of all candidates, as they are stored. -/
def lookupList (key : String) : Action σ (List Sourced) := do
  let names ← e.candidateKeys key .list scope
  names.foldlM (fun entries name => do
    let values ← e.store.getList name
    return entries ++ values.map fun value => ⟨value, name⟩) []

/-- Look one entry of a list up; only this entry is expanded. -/
def listIndexBy (key : String) (index : Int) : Action σ Sourced := do
  if index < 0 then throw (.negativeListIndex key index)
  let entries ← e.lookupList scope key
  match entries[index.toNat]? with
  | some entry => do
      let value ← expand entry.value
      return ⟨value, entry.source⟩
  | none => throw (.listIndexOutOfRange key index entries.length)

/-- The value that a reference stands for. -/
def resolveBy (reference : Reference) : Action σ String := do
  let found ← match reference with
    | .listIndex key index => e.listIndexBy expand scope key index
    | .hashField key field => e.hashFieldBy expand scope key field
    | .scalar key => e.scalarBy expand scope key
  return found.value

/-- Resolve references in order, with the text of each. -/
def resolveAll : (references : List (String × Reference)) → Action σ (List (String × String))
  | [] => return []
  | (inner, reference) :: rest => do
      let value ← e.resolveBy expand scope reference
      let others ← resolveAll rest
      return (inner, value) :: others

end Reading

/-- Replace the references of a value that stands at a depth of nesting.  All
references of a value are replaced at once; what is put in is not looked at
again.  Values read for a reference stand one level deeper, and at the limit a
value may have no references any more. -/
def expandAt (e : Engine σ) (scope : Scope) (depth : Nat) (value : String) :
    Action σ String :=
  match Fragment.references (Fragment.split value) with
  | [] => return value
  | (inner, reference) :: others =>
      if _h : e.settings.maxSubstitutionDepth ≤ depth then
        throw (.substitutionCycle (String.ofList (Fragment.reference inner.toList).chars) depth)
      else do
        let replacements ← e.resolveAll (e.expandAt scope (depth + 1)) scope
          ((inner, reference) :: others)
        return String.ofList ((Fragment.split value).flatMap (Fragment.fill replacements))
termination_by e.settings.maxSubstitutionDepth - depth

def expand (e : Engine σ) (scope : Scope) (value : String) : Action σ String :=
  e.expandAt scope 0 value

def lookupScalar (e : Engine σ) (scope : Scope) (key : String) : Action σ Sourced :=
  e.scalarBy (e.expand scope) scope key

def lookupHash (e : Engine σ) (scope : Scope) (key : String) : Action σ (NameMap Sourced) :=
  e.hashBy (e.expand scope) scope key

def lookupHashField (e : Engine σ) (scope : Scope) (key field : String) : Action σ Sourced :=
  e.hashFieldBy (e.expand scope) scope key field

def lookupListIndex (e : Engine σ) (scope : Scope) (key : String) (index : Int) :
    Action σ Sourced :=
  e.listIndexBy (e.expand scope) scope key index

end Engine

end LayeredConfig
