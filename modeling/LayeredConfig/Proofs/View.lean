/-
What lookups make of stored values, apart from any store.  Settings and a scope
give the names under which a key is looked for; entries give the values under
those names.  Every lookup reads some stored texts, has each of them expanded,
and puts the answers together.
-/
import LayeredConfig.Lookup
import LayeredConfig.Proofs.Outcome

namespace LayeredConfig

open LayeredConfig.Action

namespace StoredValue

def string? : StoredValue → Option String
  | string value => some value
  | _ => none

def hash? : StoredValue → Option (NameMap String)
  | hash fields => some fields
  | _ => none

def list? : StoredValue → Option (List String)
  | list entries => some entries
  | _ => none

def fieldNamed? (field : String) (value : StoredValue) : Option String :=
  value.hash?.bind fun fields => fields.get? field

theorem string?_eq_some_iff {value : StoredValue} {text : String} :
    value.string? = some text ↔ value = .string text := by
  cases value <;> simp [string?]

theorem hash?_eq_some_iff {value : StoredValue} {fields : NameMap String} :
    value.hash? = some fields ↔ value = .hash fields := by
  cases value <;> simp [hash?]

theorem list?_eq_some_iff {value : StoredValue} {entries : List String} :
    value.list? = some entries ↔ value = .list entries := by
  cases value <;> simp [list?]

end StoredValue

/-- An order in which a store lists the fields of its hashes. -/
structure FieldOrder where
  arrange : (key : String) → (fields : List (String × String)) → List (String × String)
  perm : ∀ key fields, (arrange key fields).Perm fields

def FieldOrder.byName : FieldOrder := ⟨fun _ fields => fields, fun _ _ => List.Perm.refl _⟩

/-- A store that lists the fields of its hashes in an order of its own. -/
def KeyStore.withFieldOrder {σ : Type} (store : KeyStore σ) (order : FieldOrder) : KeyStore σ :=
  { store with
    getHash := fun key => do
      let fields ← store.getHash key
      return order.arrange key fields }

/-- The store itself lists fields by name. -/
theorem KeyStore.withFieldOrder_byName {σ : Type} (store : KeyStore σ) :
    store.withFieldOrder .byName = store := by
  simp [withFieldOrder, FieldOrder.byName]

/-- What a probe tells a lookup: if it fails, that nothing is there, unless the
store cannot be reached. -/
def KeyKind.ofProbe : Except Failure KeyKind → Except Failure KeyKind
  | .ok kind => .ok kind
  | .error failure => if failure.isConnectivity then .error failure else .ok .none

/-- Was a part of a value asked for that is not there? -/
def Failure.isMissing : Failure → Bool
  | hashFieldNotFound .. => true
  | listIndexOutOfRange .. => true
  | negativeListIndex .. => true
  | _ => false

/-- What can be asked of an engine: a text to be expanded, or a lookup. -/
inductive Request where
  | text (value : String)
  | scalar (key : String)
  | hash (key : String)
  | hashField (key field : String)
  | list (key : String)
  | listIndex (key : String) (index : Int)

/-- What a request is answered with. -/
@[reducible] def Request.Reply : Request → Type
  | text _ => String
  | scalar _ => Sourced
  | hash _ => NameMap Sourced
  | hashField _ _ => Sourced
  | list _ => List Sourced
  | listIndex _ _ => Sourced

def Reference.request : Reference → Request
  | listIndex key index => .listIndex key index
  | hashField key field => .hashField key field
  | scalar key => .scalar key

namespace Engine

variable {σ : Type}

/-- Answer a request, with values expanded in the way given. -/
def serveBy (e : Engine σ) (expand : String → Action σ String) (scope : Scope) :
    (request : Request) → Action σ request.Reply
  | .text value => expand value
  | .scalar key => e.scalarBy expand scope key
  | .hash key => e.hashBy expand scope key
  | .hashField key field => e.hashFieldBy expand scope key field
  | .list key => e.lookupList scope key
  | .listIndex key index => e.listIndexBy expand scope key index

def serve (e : Engine σ) (scope : Scope) : (request : Request) → Action σ request.Reply
  | .text value => e.expand scope value
  | .scalar key => e.lookupScalar scope key
  | .hash key => e.lookupHash scope key
  | .hashField key field => e.lookupHashField scope key field
  | .list key => e.lookupList scope key
  | .listIndex key index => e.lookupListIndex scope key index

/-- All answers come about in one way: values are expanded from depth zero. -/
theorem serve_eq_serveBy (e : Engine σ) (scope : Scope) (request : Request) :
    e.serve scope request = e.serveBy (e.expandAt scope 0) scope request := by
  cases request <;> rfl

/-- A lookup takes what its probe tells it, and compares. -/
theorem outcome_holds (e : Engine σ) {wanted : KeyKind} (hwanted : wanted ≠ .none) (name : String)
    (state : σ) :
    (e.holds wanted name).outcome state =
      ((KeyKind.ofProbe ((e.store.probeKind name).outcome state).1).map (· == wanted),
        ((e.store.probeKind name).outcome state).2) := by
  rw [holds, outcome_bind_of_ok (outcome_observe _ state)]
  cases ((e.store.probeKind name).outcome state).1 with
  | ok kind => rfl
  | error failure =>
      by_cases hreach : failure.isConnectivity = true
      · simp only [KeyKind.ofProbe, if_pos hreach]
        rfl
      · have hnone : (KeyKind.none == wanted) = false := beq_false_of_ne hwanted.symm
        simp only [KeyKind.ofProbe, if_neg hreach, Except.map, hnone]
        rfl

/-- The value of a reference that stands in a value at the depth above. -/
def resolveAt (e : Engine σ) (scope : Scope) (depth : Nat) (reference : Reference) :
    Action σ String :=
  e.resolveBy (e.expandAt scope depth) scope reference

end Engine

structure View where
  settings : Settings
  scope : Scope
  order : FieldOrder
  entries : NameMap StoredValue

namespace View

variable {α : Type}

/-- The full keys of a key, lowest precedence first. -/
def names (v : View) (key : String) : List String :=
  (PathTemplate.resolvePaths v.settings.keyPaths v.scope).map fun path =>
    v.settings.absoluteKey path key

/-- What can be read under the full keys of a key, with the full key. -/
def stored (v : View) (key : String) (read? : StoredValue → Option α) : List (String × α) :=
  (v.names key).filterMap fun name => ((v.entries.get? name).bind read?).map (name, ·)

theorem mem_stored_iff {v : View} {key : String} {read? : StoredValue → Option α}
    {item : String × α} :
    item ∈ v.stored key read? ↔
      item.1 ∈ v.names key ∧ ∃ value, v.entries.get? item.1 = some value ∧
        read? value = some item.2 := by
  obtain ⟨name, found⟩ := item
  simp only [stored, List.mem_filterMap, Option.map_eq_some_iff, Option.bind_eq_some_iff]
  constructor
  · rintro ⟨name, hname, found, hfound, h⟩
    cases h
    exact ⟨hname, hfound⟩
  · rintro ⟨hname, hfound⟩
    exact ⟨name, hname, found, hfound, rfl⟩

/-- The entries of all lists of a key, one list after the other. -/
def listEntries (v : View) (key : String) : List Sourced :=
  (v.stored key StoredValue.list?).flatMap fun item => item.2.map fun value => ⟨value, item.1⟩

/-- The texts that are expanded for a request, in the order in which that
happens.  The entries of a list are given out as they are. -/
def texts (v : View) : Request → List String
  | .text value => [value]
  | .scalar key => (v.stored key StoredValue.string?).map Prod.snd
  | .hash key => (v.stored key StoredValue.hash?).flatMap fun item =>
      (v.order.arrange item.1 item.2.entries).map Prod.snd
  | .hashField key field => (v.stored key (StoredValue.fieldNamed? field)).map Prod.snd
  | .list _ => []
  | .listIndex key index =>
      if index < 0 then [] else ((v.listEntries key)[index.toNat]?).toList.map Sourced.value

/-- The texts that are expanded when a reference is resolved. -/
def rawValues (v : View) (reference : Reference) : List String :=
  v.texts reference.request

section Reply

variable (v : View) (value : String → Except Failure String)

/-- The union of one hash, as it is listed, and what lies below it. -/
def merge (name : String) (merged : NameMap Sourced) (fields : List (String × String)) :
    Except Failure (NameMap Sourced) :=
  fields.foldlM (fun merged field => do
    let text ← value field.2
    return merged.insert field.1 ⟨text, name⟩) merged

/-- The answer to a request, if values are expanded in the way given. -/
def reply : (request : Request) → Except Failure request.Reply
  | .text text => value text
  | .scalar key =>
      (v.stored key StoredValue.string?).foldlM (fun _ item => do
        let text ← value item.2
        return ⟨text, item.1⟩) {}
  | .hash key =>
      (v.stored key StoredValue.hash?).foldlM (fun merged item =>
        merge value item.1 merged (v.order.arrange item.1 item.2.entries)) NameMap.empty
  | .hashField key field => do
      let found ← (v.stored key (StoredValue.fieldNamed? field)).foldlM (fun _ item => do
        let text ← value item.2
        return some ⟨text, item.1⟩) (none : Option Sourced)
      match found with
      | some found => return found
      | none => throw (.hashFieldNotFound key field)
  | .list key => return v.listEntries key
  | .listIndex key index =>
      if index < 0 then throw (.negativeListIndex key index)
      else match (v.listEntries key)[index.toNat]? with
        | some entry => do
            let text ← value entry.value
            return ⟨text, entry.source⟩
        | none => throw (.listIndexOutOfRange key index (v.listEntries key).length)

/-- The value of a reference, if values are expanded in the way given. -/
def resolved (reference : Reference) : Except Failure String := do
  let found ← match reference with
    | .listIndex key index => v.reply value (.listIndex key index)
    | .hashField key field => v.reply value (.hashField key field)
    | .scalar key => v.reply value (.scalar key)
  return found.value

/-- A union that succeeds had every field expanded. -/
theorem merge_ok {name : String} {merged out : NameMap Sourced} {fields : List (String × String)}
    (h : merge value name merged fields = .ok out) :
    ∀ text ∈ fields.map Prod.snd, ∃ answer, value text = .ok answer := by
  intro text htext
  obtain ⟨field, hfield, rfl⟩ := List.mem_map.1 htext
  obtain ⟨_, _, hstep⟩ := foldlM_ok_step h field hfield
  obtain ⟨answer, hanswer, _⟩ := bind_eq_ok_iff.1 hstep
  exact ⟨answer, hanswer⟩

theorem merge_error {name : String} {merged : NameMap Sourced} {fields : List (String × String)}
    {failure : Failure} (h : merge value name merged fields = .error failure) :
    ∃ text ∈ fields.map Prod.snd, value text = .error failure := by
  obtain ⟨field, hfield, _, hstep⟩ := foldlM_error_step h
  have hfailed : value field.2 = .error failure := bind_pure_eq_error_iff.1 hstep
  exact ⟨field.2, List.mem_map_of_mem hfield, hfailed⟩

end Reply

/-- A request is answered only if every text that it reads can be expanded,
whether it ends up in the answer or is overridden. -/
theorem reply_ok_texts {v : View} {value : String → Except Failure String} {request : Request}
    {answer : request.Reply} (h : v.reply value request = .ok answer) :
    ∀ text ∈ v.texts request, ∃ expanded, value text = .ok expanded := by
  intro text htext
  cases request with
  | text value =>
      obtain rfl : text = value := List.mem_singleton.1 htext
      exact ⟨answer, h⟩
  | scalar key =>
      obtain ⟨item, hitem, rfl⟩ := List.mem_map.1 htext
      obtain ⟨_, _, hstep⟩ := foldlM_ok_step h item hitem
      obtain ⟨expanded, hexpanded, _⟩ := bind_eq_ok_iff.1 hstep
      exact ⟨expanded, hexpanded⟩
  | hash key =>
      obtain ⟨item, hitem, htext⟩ := List.mem_flatMap.1 htext
      obtain ⟨_, _, hstep⟩ := foldlM_ok_step h item hitem
      exact merge_ok value hstep text htext
  | hashField key field =>
      obtain ⟨found, hfold, _⟩ := bind_eq_ok_iff.1 h
      obtain ⟨item, hitem, rfl⟩ := List.mem_map.1 htext
      obtain ⟨_, _, hstep⟩ := foldlM_ok_step hfold item hitem
      obtain ⟨expanded, hexpanded, _⟩ := bind_eq_ok_iff.1 hstep
      exact ⟨expanded, hexpanded⟩
  | list key => cases htext
  | listIndex key index =>
      simp only [texts] at htext
      split at htext
      · cases htext
      · next hindex =>
          cases hentry : (v.listEntries key)[index.toNat]? with
          | none => simp [hentry] at htext
          | some entry =>
              obtain rfl : text = entry.value := by simpa [hentry] using htext
              simp only [reply, if_neg hindex, hentry] at h
              obtain ⟨expanded, hexpanded, _⟩ := bind_eq_ok_iff.1 h
              exact ⟨expanded, hexpanded⟩

/-- A request fails because a text that it reads cannot be expanded, or
because what it asks for is missing. -/
theorem reply_error_texts {v : View} {value : String → Except Failure String} {request : Request}
    {failure : Failure} (h : v.reply value request = .error failure) :
    (∃ text ∈ v.texts request, value text = .error failure) ∨ failure.isMissing = true := by
  cases request with
  | text value => exact Or.inl ⟨value, List.mem_singleton_self value, h⟩
  | scalar key =>
      obtain ⟨item, hitem, _, hstep⟩ := foldlM_error_step h
      have hfailed : value item.2 = .error failure := bind_pure_eq_error_iff.1 hstep
      exact Or.inl ⟨item.2, List.mem_map_of_mem hitem, hfailed⟩
  | hash key =>
      obtain ⟨item, hitem, _, hstep⟩ := foldlM_error_step h
      obtain ⟨text, htext, hfailed⟩ := merge_error value hstep
      exact Or.inl ⟨text, List.mem_flatMap.2 ⟨item, hitem, htext⟩, hfailed⟩
  | hashField key field =>
      rcases bind_eq_error_iff.1 h with hfold | ⟨found, _, hlast⟩
      · obtain ⟨item, hitem, _, hstep⟩ := foldlM_error_step hfold
        have hfailed : value item.2 = .error failure := bind_pure_eq_error_iff.1 hstep
        exact Or.inl ⟨item.2, List.mem_map_of_mem hitem, hfailed⟩
      · cases found with
        | none =>
            cases hlast
            exact Or.inr rfl
        | some found => cases hlast
  | list key => cases h
  | listIndex key index =>
      simp only [reply] at h
      split at h
      · cases h
        exact Or.inr rfl
      · next hindex =>
          cases hentry : (v.listEntries key)[index.toNat]? with
          | none =>
              simp only [hentry] at h
              cases h
              exact Or.inr rfl
          | some entry =>
              simp only [hentry] at h
              have hfailed : value entry.value = .error failure := bind_pure_eq_error_iff.1 h
              exact Or.inl ⟨entry.value, by simp [texts, hindex, hentry], hfailed⟩

theorem resolved_ok_rawValues {v : View} {value : String → Except Failure String}
    {reference : Reference} {answer : String} (h : v.resolved value reference = .ok answer) :
    ∀ text ∈ v.rawValues reference, ∃ expanded, value text = .ok expanded := by
  cases reference <;>
    · obtain ⟨found, hfound, _⟩ := bind_eq_ok_iff.1 h
      exact reply_ok_texts hfound

theorem resolved_error_rawValues {v : View} {value : String → Except Failure String}
    {reference : Reference} {failure : Failure} (h : v.resolved value reference = .error failure) :
    (∃ text ∈ v.rawValues reference, value text = .error failure) ∨ failure.isMissing = true := by
  cases reference <;>
    · apply reply_error_texts
      exact bind_pure_eq_error_iff.1 h

end View

end LayeredConfig
