/-
What a lookup does to a store in memory: it fetches values under the full keys
of the scope's layers, each fetch is counted, and nothing else changes, whether
the lookup is answered or fails on the way.
-/
import LayeredConfig.Proofs.MemoryView
import LayeredConfig.Proofs.Parallel

namespace LayeredConfig

open LayeredConfig.Action

/-- Is it the store that failed, by itself? -/
def Failure.isOfStore : Failure → Bool
  | backendUnavailable .. => true
  | backend .. => true
  | _ => false

namespace Action

variable {σ α β : Type}

/-- From every state an action moves only to states that it may reach. -/
def Moves (may : σ → σ → Prop) (action : Action σ α) : Prop :=
  ∀ state, may state (action.outcome state).2

namespace Moves

variable {may : σ → σ → Prop}

/-- Where moves can be put one after another, so can actions. -/
theorem bind (htrans : ∀ before between after, may before between → may between after →
    may before after) {action : Action σ α} {next : α → Action σ β} (h : Moves may action)
    (hnext : ∀ value, Moves may (next value)) : Moves may (action >>= next) := by
  intro state
  have hfirst := h state
  rw [outcome_bind]
  cases hout : action.outcome state with
  | mk result left =>
      rw [hout] at hfirst
      cases result with
      | ok value => exact htrans _ _ _ hfirst (hnext value left)
      | error failure => exact hfirst

theorem observe {action : Action σ α} (h : Moves may action) : Moves may (observe action) := h

theorem congruence (hrefl : ∀ state, may state state)
    (htrans : ∀ before between after, may before between → may between after →
      may before after) :
    Congruence fun (α : Type) (action _ : Action σ α) => Moves may action where
  pure _ := hrefl
  missing _ := hrefl
  bind := Moves.bind htrans

end Moves

end Action

namespace MemoryStore

variable {α β : Type}

/-- From one state to the other nothing has changed but the counts of fetches,
which have not gone down, and have gone up under these names only. -/
structure OnlyFetched (names : String → Prop) (before after : MemoryStore) : Prop where
  entries : after.entries = before.entries
  unavailable : after.unavailable = before.unavailable
  fetchCount_le : ∀ name, before.fetchCount name ≤ after.fetchCount name
  fetchCount_eq : ∀ name, ¬ names name → after.fetchCount name = before.fetchCount name

namespace OnlyFetched

variable {names : String → Prop}

theorem refl (m : MemoryStore) : OnlyFetched names m m :=
  ⟨rfl, rfl, fun _ => Nat.le_refl _, fun _ _ => rfl⟩

theorem trans {before between after : MemoryStore} (h : OnlyFetched names before between)
    (hrest : OnlyFetched names between after) : OnlyFetched names before after where
  entries := hrest.entries.trans h.entries
  unavailable := hrest.unavailable.trans h.unavailable
  fetchCount_le name := Nat.le_trans (h.fetchCount_le name) (hrest.fetchCount_le name)
  fetchCount_eq name hname := (hrest.fetchCount_eq name hname).trans (h.fetchCount_eq name hname)

theorem of_name {name : String} {before after : MemoryStore}
    (h : OnlyFetched (· = name) before after) (hname : names name) :
    OnlyFetched names before after where
  entries := h.entries
  unavailable := h.unavailable
  fetchCount_le := h.fetchCount_le
  fetchCount_eq other hother := h.fetchCount_eq other fun heq => hother (heq ▸ hname)

/-- One fetch counts for its own key. -/
theorem count (m : MemoryStore) (name : String) :
    OnlyFetched (· = name) m
      { m with fetches := m.fetches.insert name (m.fetchCount name + 1) } where
  entries := rfl
  unavailable := rfl
  fetchCount_le other := by
    rw [fetchCount, fetchCount, NameMap.get?_insert]
    split
    · next heq =>
        subst heq
        exact Nat.le_succ _
    · exact Nat.le_refl _
  fetchCount_eq other hother := by
    rw [fetchCount, NameMap.get?_insert_of_ne _ hother]
    rfl

end OnlyFetched

theorem outcome_access_unavailable {m : MemoryStore} (h : m.unavailable = true) :
    access.outcome m = (.error markedUnavailable, m) := by
  have hget : (get : Action MemoryStore MemoryStore).outcome m = (.ok m, m) := rfl
  rw [access, outcome_bind_of_ok hget, h]
  rfl

/-- An action that reads what is under a name: it may fetch the value, and it
fails only as the store itself does. -/
structure Reads (name : String) (action : Action MemoryStore α) : Prop where
  moves : Moves (OnlyFetched (· = name)) action
  failure : ∀ {m failure}, (action.outcome m).1 = .error failure → failure.isOfStore = true

namespace Reads

variable {name : String}

theorem pure (value : α) : Reads name (pure value) :=
  ⟨OnlyFetched.refl, nofun⟩

theorem throw {failure : Failure} (h : failure.isOfStore = true) :
    Reads name (throw failure : Action MemoryStore α) := by
  refine ⟨OnlyFetched.refl, ?_⟩
  rintro m _ ⟨⟩
  exact h

theorem bind {action : Action MemoryStore α} {next : α → Action MemoryStore β}
    (h : Reads name action) (hnext : ∀ value, Reads name (next value)) :
    Reads name (action >>= next) := by
  refine ⟨Moves.bind (fun _ _ _ hfirst hrest => hfirst.trans hrest) h.moves
    fun value => (hnext value).moves, ?_⟩
  intro m failure hfailure
  rw [outcome_bind] at hfailure
  cases hout : action.outcome m with
  | mk result left =>
      rw [hout] at hfailure
      cases result with
      | ok value => exact (hnext value).failure hfailure
      | error other =>
          obtain rfl : other = failure := Except.error.inj hfailure
          exact h.failure (congrArg Prod.fst hout)

/-- What follows an observed action has to deal with its results only. -/
theorem observe_bind {action : Action MemoryStore α}
    {next : Except Failure α → Action MemoryStore β} (h : Reads name action)
    (hnext : ∀ result, (∀ failure, result = .error failure → failure.isOfStore = true) →
      Reads name (next result)) : Reads name (observe action >>= next) where
  moves m := by
    rw [outcome_bind_of_ok (outcome_observe action m)]
    exact (h.moves m).trans ((hnext _ fun _ hfailed => h.failure hfailed).moves _)
  failure {m failure} hfailure := by
    rw [outcome_bind_of_ok (outcome_observe action m)] at hfailure
    exact (hnext _ fun _ hfailed => h.failure hfailed).failure hfailure

/-- What comes behind the check that the store is there has to deal with an
available store only. -/
theorem access_bind {next : MemoryStore → Action MemoryStore α}
    (hmoves : ∀ m, OnlyFetched (· = name) m ((next m).outcome m).2)
    (hfailure : ∀ {m failure}, ((next m).outcome m).1 = .error failure →
      failure.isOfStore = true) : Reads name (access >>= next) where
  moves m := by
    by_cases havailable : m.unavailable = true
    · rw [outcome_bind_of_error (outcome_access_unavailable havailable)]
      exact OnlyFetched.refl m
    · rw [outcome_bind_of_ok (outcome_access (Bool.eq_false_iff.2 havailable))]
      exact hmoves m
  failure {m failure} hfailed := by
    by_cases havailable : m.unavailable = true
    · rw [outcome_bind_of_error (outcome_access_unavailable havailable)] at hfailed
      cases hfailed
      rfl
    · rw [outcome_bind_of_ok (outcome_access (Bool.eq_false_iff.2 havailable))] at hfailed
      exact hfailure hfailed

theorem fetch (name : String) : Reads name (fetch name) :=
  access_bind (fun m => OnlyFetched.count m name) nofun

theorem probeKind (name : String) : Reads name (store.probeKind name) :=
  access_bind OnlyFetched.refl nofun

theorem holds {e : Engine MemoryStore} (h : Reads name (e.store.probeKind name))
    (wanted : KeyKind) : Reads name (e.holds wanted name) := by
  apply h.observe_bind
  intro result hresult
  rcases result with failure | kind
  · by_cases hreach : failure.isConnectivity = true
    · simp only [if_pos hreach]
      exact throw (hresult failure rfl)
    · simp only [if_neg hreach]
      exact pure false
  · exact pure (kind == wanted)

theorem getScalar (name : String) : Reads name (getScalar name) := by
  apply (fetch name).bind
  rintro (_ | ⟨text⟩ | _ | _)
  · exact throw rfl
  · exact pure text
  · exact throw rfl
  · exact throw rfl

theorem getHash (name : String) : Reads name (getHash name) := by
  apply (fetch name).bind
  rintro (_ | _ | ⟨fields⟩ | _)
  · exact pure []
  · exact throw rfl
  · exact pure fields.entries
  · exact throw rfl

theorem hasHashField (name field : String) : Reads name (hasHashField name field) := by
  apply access_bind
  · intro m
    split <;> exact OnlyFetched.refl m
  · intro m failure hfailed
    split at hfailed <;> cases hfailed

theorem getHashField (name field : String) : Reads name (getHashField name field) := by
  apply (fetch name).bind
  rintro (_ | _ | ⟨fields⟩ | _)
  · exact throw rfl
  · exact throw rfl
  · simp only
    cases fields.get? field with
    | none => exact throw rfl
    | some text => exact pure text
  · exact throw rfl

theorem getList (name : String) : Reads name (getList name) := by
  apply (fetch name).bind
  rintro (_ | _ | _ | ⟨entries⟩)
  · exact pure []
  · exact throw rfl
  · exact throw rfl
  · exact pure entries

end Reads

section Engines

variable (settings : Settings) (scope : Scope) (order : FieldOrder)

/-- Engines that go through the same layers of a store in memory are alike in
everything that reads of the store have in common. -/
theorem alikeInLayers
    {R : (α : Type) → Action MemoryStore α → Action MemoryStore α → Prop} {other : Settings}
    (hkeys : settings.keyPrefix = other.keyPrefix) (hpaths : settings.keyPaths = other.keyPaths)
    (hR : ∀ {α : Type} {name : String} {action : Action MemoryStore α},
      settings.IsFullKey scope name → Reads name action → R α action action) :
    (engine settings order).AlikeInLayers R scope (engine other order) scope where
  keyPrefix := hkeys
  paths := congrArg (PathTemplate.resolvePaths · scope) hpaths
  holds := fun {wanted} _ {name} hname => hR hname (Reads.holds (Reads.probeKind name) wanted)
  getScalar {name} hname := hR hname (Reads.getScalar name)
  getHash {name} hname := hR hname ((Reads.getHash name).bind fun _ => Reads.pure _)
  hasHashField {name} hname field := hR hname (Reads.hasHashField name field)
  getHashField {name} hname field := hR hname (Reads.getHashField name field)
  getList {name} hname := hR hname (Reads.getList name)

/-- Probing leaves the store as it is. -/
theorem moves_existingKeys (key : String) (wanted : KeyKind) (paths : List String) :
    Moves (fun before after => after = before)
      ((engine settings order).existingKeys key wanted paths) := by
  have htrans : ∀ before between after : MemoryStore, between = before → after = between →
      after = before := fun _ _ _ hfirst hrest => hrest.trans hfirst
  have hprobe : ∀ name, Moves (fun before after => after = before)
      ((engine settings order).store.probeKind name) := by
    intro name m
    change ((access >>= fun m => pure (m.kindAt name)).outcome m).2 = m
    by_cases havailable : m.unavailable = true
    · rw [outcome_bind_of_error (outcome_access_unavailable havailable)]
    · rw [outcome_bind_of_ok (outcome_access (Bool.eq_false_iff.2 havailable))]
      rfl
  induction paths with
  | nil => exact fun _ => rfl
  | cons path rest ih =>
      apply Moves.bind htrans
      · apply Moves.bind htrans (hprobe _).observe
        rintro (failure | kind)
        · by_cases hreach : failure.isConnectivity = true
          · simp only [if_pos hreach]
            exact fun _ => rfl
          · simp only [if_neg hreach]
            exact fun _ => rfl
        · exact fun _ => rfl
      · intro found
        exact Moves.bind htrans ih fun others _ => rfl

/-- Lookups never write.  From every state of the store, available or not, and
whether it is answered or fails, a request leaves the values and the availability
as they were; the counts of fetches do not go down, and go up only under full
keys of the scope's layers.  Probing for keys does not even count. -/
theorem serve_only_fetches (m : MemoryStore) :
    (∀ request, OnlyFetched (settings.IsFullKey scope) m
      (((engine settings order).serve scope request).outcome m).2) ∧
    (∀ key wanted paths,
      (((engine settings order).existingKeys key wanted paths).outcome m).2 = m) ∧
    ∀ key wanted,
      (((engine settings order).candidateKeys key wanted scope).outcome m).2 = m := by
  have hprobes := moves_existingKeys settings order
  refine ⟨fun request => ?_, fun key wanted paths => hprobes key wanted paths m,
    fun key wanted => hprobes key wanted _ m⟩
  have halike : (engine settings order).AlikeInLayers
      (fun _ action _ => Moves (OnlyFetched (settings.IsFullKey scope)) action) scope
      (engine settings order) scope :=
    alikeInLayers settings scope order rfl rfl fun hname hreads m =>
      (hreads.moves m).of_name hname
  exact halike.serve (Moves.congruence OnlyFetched.refl fun _ _ _ => OnlyFetched.trans) rfl
    (fun _ _ => OnlyFetched.refl) request m

-- An expansion that is stopped at the limit has counted the fetches on its way.
example :
    (((engine { maxSubstitutionDepth := 1 } .byName).lookupScalar .empty "a").outcome
      { entries := NameMap.ofList [("cfg:default:a", .string "$\x7ba\x7d")] }).2.fetches =
        NameMap.ofList [("cfg:default:a", 2)] := by decide +kernel

end Engines

end MemoryStore

end LayeredConfig
