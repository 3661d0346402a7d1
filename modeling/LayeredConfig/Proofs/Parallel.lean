/-
Two engines at work side by side.  A lookup only puts actions together and
reads its store, so a relation between actions that survives when they are put
together holds between whole runs as soon as it holds between the reads, and
of the reads only those under the full keys of the scope's layers count.
-/
import LayeredConfig.Proofs.View

namespace LayeredConfig

variable {σ τ : Type}

namespace Action

variable {α : Type}

/-- Actions with the same outcome from every state are the same. -/
theorem eq_of_outcome_eq {action other : Action σ α}
    (h : ∀ state, action.outcome state = other.outcome state) : action = other :=
  funext h

/-- A relation between the actions of two machines that is kept when actions
are put together, and by the failures that say that something is missing. -/
structure Congruence (R : (α : Type) → Action σ α → Action τ α → Prop) : Prop where
  pure : ∀ {α : Type} (value : α), R α (pure value) (pure value)
  missing : ∀ {α : Type} {failure : Failure}, failure.isMissing = true →
    R α (throw failure) (throw failure)
  bind : ∀ {α β : Type} {action : Action σ α} {other : Action τ α} {next : α → Action σ β}
    {otherNext : α → Action τ β}, R α action other →
      (∀ value, R β (next value) (otherNext value)) →
        R β (action >>= next) (other >>= otherNext)

/-- Equality is such a relation. -/
theorem Congruence.eq : Congruence fun (α : Type) (action other : Action σ α) => action = other where
  pure _ := rfl
  missing _ := rfl
  bind := by
    rintro α β action _ next otherNext rfl hnext
    rw [funext hnext]

theorem Congruence.foldlM {R : (α : Type) → Action σ α → Action τ α → Prop} (hR : Congruence R)
    {β ι : Type} {step : β → ι → Action σ β} {otherStep : β → ι → Action τ β} {items : List ι}
    (hstep : ∀ item ∈ items, ∀ before, R β (step before item) (otherStep before item))
    (start : β) : R β (items.foldlM step start) (items.foldlM otherStep start) := by
  induction items generalizing start with
  | nil => exact hR.pure start
  | cons head rest ih =>
      rw [List.foldlM_cons, List.foldlM_cons]
      apply hR.bind (hstep head List.mem_cons_self start)
      intro next
      exact ih (fun item hitem => hstep item (List.mem_cons_of_mem head hitem)) next

end Action

open LayeredConfig.Action

/-- Two engines, each at a scope, that go through the same full keys, and whose
reads of their stores are related. -/
structure Engine.Alike (R : (α : Type) → Action σ α → Action τ α → Prop) (e : Engine σ)
    (scope : Scope) (other : Engine τ) (otherScope : Scope) : Prop where
  keyPrefix : e.settings.keyPrefix = other.settings.keyPrefix
  paths : PathTemplate.resolvePaths e.settings.keyPaths scope =
    PathTemplate.resolvePaths other.settings.keyPaths otherScope
  holds : ∀ {wanted}, wanted ≠ KeyKind.none → ∀ name,
    R Bool (e.holds wanted name) (other.holds wanted name)
  getScalar : ∀ name, R String (e.store.getScalar name) (other.store.getScalar name)
  getHash : ∀ name, R (List (String × String)) (e.store.getHash name) (other.store.getHash name)
  hasHashField : ∀ name field,
    R Bool (e.store.hasHashField name field) (other.store.hasHashField name field)
  getHashField : ∀ name field,
    R String (e.store.getHashField name field) (other.store.getHashField name field)
  getList : ∀ name, R (List String) (e.store.getList name) (other.store.getList name)

/-- Is this the full key of some key in a layer that applies under a scope? -/
def Settings.IsFullKey (settings : Settings) (scope : Scope) (name : String) : Prop :=
  ∃ path ∈ PathTemplate.resolvePaths settings.keyPaths scope, ∃ key,
    name = settings.absoluteKey path key

/-- The same of two engines whose reads are related under these full keys. -/
structure Engine.AlikeInLayers (R : (α : Type) → Action σ α → Action τ α → Prop) (e : Engine σ)
    (scope : Scope) (other : Engine τ) (otherScope : Scope) : Prop where
  keyPrefix : e.settings.keyPrefix = other.settings.keyPrefix
  paths : PathTemplate.resolvePaths e.settings.keyPaths scope =
    PathTemplate.resolvePaths other.settings.keyPaths otherScope
  holds : ∀ {wanted}, wanted ≠ KeyKind.none → ∀ {name}, e.settings.IsFullKey scope name →
    R Bool (e.holds wanted name) (other.holds wanted name)
  getScalar : ∀ {name}, e.settings.IsFullKey scope name →
    R String (e.store.getScalar name) (other.store.getScalar name)
  getHash : ∀ {name}, e.settings.IsFullKey scope name →
    R (List (String × String)) (e.store.getHash name) (other.store.getHash name)
  hasHashField : ∀ {name}, e.settings.IsFullKey scope name → ∀ field,
    R Bool (e.store.hasHashField name field) (other.store.hasHashField name field)
  getHashField : ∀ {name}, e.settings.IsFullKey scope name → ∀ field,
    R String (e.store.getHashField name field) (other.store.getHashField name field)
  getList : ∀ {name}, e.settings.IsFullKey scope name →
    R (List String) (e.store.getList name) (other.store.getList name)

namespace Engine.AlikeInLayers

variable {R : (α : Type) → Action σ α → Action τ α → Prop} {e : Engine σ} {scope : Scope}
  {other : Engine τ} {otherScope : Scope}

/-- Both sides probe the same full keys, one after another, and go on with some
of them. -/
theorem candidateKeys_bind (h : e.AlikeInLayers R scope other otherScope) (hR : Congruence R)
    (key : String) {wanted : KeyKind} (hwanted : wanted ≠ .none) {β : Type}
    {next : List String → Action σ β} {otherNext : List String → Action τ β}
    (hnext : ∀ names, (∀ name ∈ names, e.settings.IsFullKey scope name) →
      R β (next names) (otherNext names)) :
    R β (e.candidateKeys key wanted scope >>= next)
      (other.candidateKeys key wanted otherScope >>= otherNext) := by
  rw [Engine.candidateKeys, Engine.candidateKeys, ← h.paths]
  -- what goes on with the names of the rest is told the first one too
  suffices ∀ paths, (∀ path ∈ paths,
      path ∈ PathTemplate.resolvePaths e.settings.keyPaths scope) →
      R β (e.existingKeys key wanted paths >>= next)
        (other.existingKeys key wanted paths >>= otherNext) from
    this _ fun _ hpath => hpath
  intro paths hpaths
  induction paths generalizing next otherNext with
  | nil => exact hnext [] nofun
  | cons path rest ih =>
      obtain ⟨hpath, hrest⟩ := List.forall_mem_cons.1 hpaths
      have hname : e.settings.absoluteKey path key = other.settings.absoluteKey path key := by
        rw [Settings.absoluteKey, Settings.absoluteKey, h.keyPrefix]
      have hfull : e.settings.IsFullKey scope (other.settings.absoluteKey path key) :=
        ⟨path, hpath, key, hname.symm⟩
      simp only [existingKeys, hname, bind_assoc, pure_bind]
      apply hR.bind (h.holds hwanted hfull)
      intro found
      apply ih _ hrest
      intro others hothers
      apply hnext
      intro name hmem
      split at hmem
      · rcases List.mem_cons.1 hmem with rfl | hmem
        · exact hfull
        · exact hothers name hmem
      · exact hothers name hmem

section Reading

variable {expand : String → Action σ String} {otherExpand : String → Action τ String}

theorem scalarBy (h : e.AlikeInLayers R scope other otherScope) (hR : Congruence R)
    (hexpand : ∀ text, R String (expand text) (otherExpand text)) (key : String) :
    R Sourced (e.scalarBy expand scope key) (other.scalarBy otherExpand otherScope key) := by
  apply h.candidateKeys_bind hR key (by decide)
  intro names hnames
  apply hR.foldlM
  intro name hname before
  apply hR.bind (h.getScalar (hnames name hname))
  intro raw
  apply hR.bind (hexpand raw)
  intro value
  exact hR.pure _

theorem mergeFields (hR : Congruence R)
    (hexpand : ∀ text, R String (expand text) (otherExpand text)) (name : String)
    (merged : NameMap Sourced) (fields : List (String × String)) :
    R (NameMap Sourced) (Engine.mergeFields expand name merged fields)
      (Engine.mergeFields otherExpand name merged fields) := by
  apply hR.foldlM
  intro field _ merged
  apply hR.bind (hexpand field.2)
  intro value
  exact hR.pure _

theorem hashBy (h : e.AlikeInLayers R scope other otherScope) (hR : Congruence R)
    (hexpand : ∀ text, R String (expand text) (otherExpand text)) (key : String) :
    R (NameMap Sourced) (e.hashBy expand scope key)
      (other.hashBy otherExpand otherScope key) := by
  apply h.candidateKeys_bind hR key (by decide)
  intro names hnames
  apply hR.foldlM
  intro name hname merged
  apply hR.bind (h.getHash (hnames name hname))
  intro fields
  exact mergeFields hR hexpand name merged fields

theorem hashFieldBy (h : e.AlikeInLayers R scope other otherScope) (hR : Congruence R)
    (hexpand : ∀ text, R String (expand text) (otherExpand text)) (key field : String) :
    R Sourced (e.hashFieldBy expand scope key field)
      (other.hashFieldBy otherExpand otherScope key field) := by
  apply h.candidateKeys_bind hR key (by decide)
  intro names hnames
  apply hR.bind
  · apply hR.foldlM
    intro name hname found
    apply hR.bind (h.hasHashField (hnames name hname) field)
    intro has
    cases has with
    | false => exact hR.pure found
    | true =>
        apply hR.bind (h.getHashField (hnames name hname) field)
        intro raw
        apply hR.bind (hexpand raw)
        intro value
        exact hR.pure _
  · intro found
    cases found with
    | none => exact hR.missing rfl
    | some found => exact hR.pure found

theorem lookupList (h : e.AlikeInLayers R scope other otherScope) (hR : Congruence R)
    (key : String) :
    R (List Sourced) (e.lookupList scope key) (other.lookupList otherScope key) := by
  apply h.candidateKeys_bind hR key (by decide)
  intro names hnames
  apply hR.foldlM
  intro name hname entries
  apply hR.bind (h.getList (hnames name hname))
  intro values
  exact hR.pure _

theorem listIndexBy (h : e.AlikeInLayers R scope other otherScope) (hR : Congruence R)
    (hexpand : ∀ text, R String (expand text) (otherExpand text)) (key : String) (index : Int) :
    R Sourced (e.listIndexBy expand scope key index)
      (other.listIndexBy otherExpand otherScope key index) := by
  unfold Engine.listIndexBy
  by_cases hindex : index < 0
  · simp only [if_pos hindex]
    exact hR.missing rfl
  · simp only [if_neg hindex]
    apply hR.bind (h.lookupList hR key)
    intro entries
    cases entries[index.toNat]? with
    | none => exact hR.missing rfl
    | some entry =>
        apply hR.bind (hexpand entry.value)
        intro value
        exact hR.pure _

theorem serveBy (h : e.AlikeInLayers R scope other otherScope) (hR : Congruence R)
    (hexpand : ∀ text, R String (expand text) (otherExpand text)) (request : Request) :
    R request.Reply (e.serveBy expand scope request)
      (other.serveBy otherExpand otherScope request) := by
  cases request with
  | text value => exact hexpand value
  | scalar key => exact h.scalarBy hR hexpand key
  | hash key => exact h.hashBy hR hexpand key
  | hashField key field => exact h.hashFieldBy hR hexpand key field
  | list key => exact h.lookupList hR key
  | listIndex key index => exact h.listIndexBy hR hexpand key index

theorem resolveBy (h : e.AlikeInLayers R scope other otherScope) (hR : Congruence R)
    (hexpand : ∀ text, R String (expand text) (otherExpand text)) (reference : Reference) :
    R String (e.resolveBy expand scope reference)
      (other.resolveBy otherExpand otherScope reference) := by
  cases reference with
  | listIndex key index =>
      apply hR.bind (h.listIndexBy hR hexpand key index)
      intro found
      exact hR.pure found.value
  | hashField key field =>
      apply hR.bind (h.hashFieldBy hR hexpand key field)
      intro found
      exact hR.pure found.value
  | scalar key =>
      apply hR.bind (h.scalarBy hR hexpand key)
      intro found
      exact hR.pure found.value

theorem resolveAll (h : e.AlikeInLayers R scope other otherScope) (hR : Congruence R)
    (hexpand : ∀ text, R String (expand text) (otherExpand text))
    (references : List (String × Reference)) :
    R (List (String × String)) (e.resolveAll expand scope references)
      (other.resolveAll otherExpand otherScope references) := by
  induction references with
  | nil => exact hR.pure []
  | cons head rest ih =>
      apply hR.bind (h.resolveBy hR hexpand head.2)
      intro value
      apply hR.bind ih
      intro others
      exact hR.pure _

end Reading

/-- Under one limit the expansions are related too, by the recursion on what is
left below the limit. -/
theorem expandAt (h : e.AlikeInLayers R scope other otherScope) (hR : Congruence R)
    (hlimit : e.settings.maxSubstitutionDepth = other.settings.maxSubstitutionDepth)
    (hcycle : ∀ reference depth, R String (throw (.substitutionCycle reference depth))
      (throw (.substitutionCycle reference depth))) (depth : Nat) (value : String) :
    R String (e.expandAt scope depth value) (other.expandAt otherScope depth value) := by
  fun_induction Engine.expandAt e scope depth value with
  | case1 depth value hnone =>
      rw [Engine.expandAt, hnone]
      exact hR.pure value
  | case2 depth value inner reference others hsome hstop =>
      rw [hlimit] at hstop
      rw [Engine.expandAt, hsome]
      simp only [dif_pos hstop]
      exact hcycle _ _
  | case3 depth value inner reference others hsome hgo ih =>
      rw [hlimit] at hgo
      rw [Engine.expandAt, hsome]
      simp only [dif_neg hgo]
      apply hR.bind (h.resolveAll hR ih _)
      intro replacements
      exact hR.pure _

/-- Related reads make related answers. -/
theorem serve (h : e.AlikeInLayers R scope other otherScope) (hR : Congruence R)
    (hlimit : e.settings.maxSubstitutionDepth = other.settings.maxSubstitutionDepth)
    (hcycle : ∀ reference depth, R String (throw (.substitutionCycle reference depth))
      (throw (.substitutionCycle reference depth))) (request : Request) :
    R request.Reply (e.serve scope request) (other.serve otherScope request) := by
  rw [serve_eq_serveBy, serve_eq_serveBy]
  exact h.serveBy hR (h.expandAt hR hlimit hcycle 0) request

end Engine.AlikeInLayers

namespace Engine.Alike

variable {R : (α : Type) → Action σ α → Action τ α → Prop} {e : Engine σ} {scope : Scope}
  {other : Engine τ} {otherScope : Scope}

/-- Reads that are related under all names are so under full keys. -/
theorem inLayers (h : e.Alike R scope other otherScope) :
    e.AlikeInLayers R scope other otherScope where
  keyPrefix := h.keyPrefix
  paths := h.paths
  holds hwanted _ _ := h.holds hwanted _
  getScalar _ := h.getScalar _
  getHash _ := h.getHash _
  hasHashField _ field := h.hasHashField _ field
  getHashField _ field := h.getHashField _ field
  getList _ := h.getList _

theorem expandAt (h : e.Alike R scope other otherScope) (hR : Congruence R)
    (hlimit : e.settings.maxSubstitutionDepth = other.settings.maxSubstitutionDepth)
    (hcycle : ∀ reference depth, R String (throw (.substitutionCycle reference depth))
      (throw (.substitutionCycle reference depth))) (depth : Nat) (value : String) :
    R String (e.expandAt scope depth value) (other.expandAt otherScope depth value) :=
  h.inLayers.expandAt hR hlimit hcycle depth value

theorem serve (h : e.Alike R scope other otherScope) (hR : Congruence R)
    (hlimit : e.settings.maxSubstitutionDepth = other.settings.maxSubstitutionDepth)
    (hcycle : ∀ reference depth, R String (throw (.substitutionCycle reference depth))
      (throw (.substitutionCycle reference depth))) (request : Request) :
    R request.Reply (e.serve scope request) (other.serve otherScope request) :=
  h.inLayers.serve hR hlimit hcycle request

end Engine.Alike

end LayeredConfig
