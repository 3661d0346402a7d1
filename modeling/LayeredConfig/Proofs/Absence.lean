/-
What never says that a key was not found.  Connections, lookups, imports, the
pool and the loading of settings fail in other ways only; to say that a key was
not found is left to those who look at an empty answer.
-/
import LayeredConfig.Import
import LayeredConfig.Pool
import LayeredConfig.Proofs.Parallel
import LayeredConfig.SettingsLoader

namespace LayeredConfig

open LayeredConfig.Action

variable {σ η α β : Type}

/-- A result that does not say that a key was not found. -/
def NotAbsent (result : Except Failure α) : Prop :=
  ∀ failure, result = .error failure → failure.isNotFound = false

namespace NotAbsent

theorem ok (value : α) : NotAbsent (.ok value : Except Failure α) := nofun

theorem error {failure : Failure} (h : failure.isNotFound = false) :
    NotAbsent (.error failure : Except Failure α) := by
  rintro _ ⟨⟩
  exact h

theorem bind {result : Except Failure α} {next : α → Except Failure β} (h : NotAbsent result)
    (hnext : ∀ value, NotAbsent (next value)) : NotAbsent (result >>= next) := by
  intro failure hfailure
  rcases bind_eq_error_iff.1 hfailure with hfirst | ⟨value, _, hrest⟩
  · exact h failure hfirst
  · exact hnext value failure hrest

theorem map {result : Except Failure α} (make : α → β) (h : NotAbsent result) :
    NotAbsent (make <$> result) := by
  rw [map_eq_pure_bind]
  exact h.bind fun value => .ok (make value)

end NotAbsent

namespace Action

/-- An action that never says that a key was not found. -/
def NeverAbsent (action : Action σ α) : Prop :=
  ∀ state, NotAbsent (action.outcome state).1

namespace NeverAbsent

theorem pure (value : α) : NeverAbsent (pure value : Action σ α) :=
  fun _ => .ok value

theorem throw {failure : Failure} (h : failure.isNotFound = false) :
    NeverAbsent (throw failure : Action σ α) :=
  fun _ => .error h

theorem lift (action : StateM σ α) : NeverAbsent (ExceptT.lift action : Action σ α) :=
  fun _ => .ok _

theorem get : NeverAbsent (get : Action σ σ) := fun state => .ok state

theorem set (state : σ) : NeverAbsent (set state : Action σ PUnit) := fun _ => .ok _

theorem ofExcept {result : Except Failure α} (h : NotAbsent result) :
    NeverAbsent (ofExcept result : Action σ α) :=
  fun _ => h

theorem bind {action : Action σ α} {next : α → Action σ β} (h : NeverAbsent action)
    (hnext : ∀ value, NeverAbsent (next value)) : NeverAbsent (action >>= next) := by
  intro state
  rw [outcome_bind]
  cases hfirst : action.outcome state with
  | mk result left =>
      cases result with
      | ok value => exact hnext value left
      | error failure =>
          have hfailure := h state failure (by rw [hfirst])
          exact .error hfailure

/-- What follows an observed action has to deal with its results only. -/
theorem observe_bind {action : Action σ α} {next : Except Failure α → Action σ β}
    (h : NeverAbsent action) (hnext : ∀ result, NotAbsent result → NeverAbsent (next result)) :
    NeverAbsent (observe action >>= next) := by
  intro state
  rw [outcome_bind_of_ok (outcome_observe action state)]
  exact hnext _ (h state) _

theorem map {action : Action σ α} (make : α → β) (h : NeverAbsent action) :
    NeverAbsent (make <$> action) := by
  rw [map_eq_pure_bind]
  exact h.bind fun value => .pure (make value)

/-- To be such an action is kept when actions are put together. -/
theorem congruence : Congruence fun (α : Type) (action _ : Action σ α) => NeverAbsent action where
  pure := NeverAbsent.pure
  missing := by
    intro α failure hmissing
    cases failure with
    | keyNotFound key => cases hmissing
    | _ => exact throw rfl
  bind := NeverAbsent.bind

end NeverAbsent

/-- After a result that never says that a key was not found, it is what follows
that says so. -/
theorem outcome_ofExcept_bind_absent_iff {result : Except Failure α} (h : NotAbsent result)
    {next : α → Action σ β} {state left : σ} {key : String} :
    (ofExcept result >>= next).outcome state = (.error (.keyNotFound key), left) ↔
      ∃ value, result = .ok value ∧
        (next value).outcome state = (.error (.keyNotFound key), left) := by
  cases result with
  | ok value =>
      constructor
      · intro hnext
        exact ⟨value, rfl, hnext⟩
      · rintro ⟨_, ⟨⟩, hnext⟩
        exact hnext
  | error failure =>
      constructor
      · intro hfailed
        cases hfailed
        cases h _ rfl
      · rintro ⟨_, ⟨⟩, _⟩

end Action

namespace StoreProvider

theorem neverAbsent_withStore {provider : StoreProvider σ η} {use : KeyStore σ → Action σ α}
    (hcheckout : NeverAbsent provider.checkout)
    (huse : ∀ handle, NeverAbsent (use (provider.store handle))) :
    NeverAbsent (provider.withStore use) := by
  apply hcheckout.bind
  intro handle
  apply (huse handle).observe_bind
  intro result hresult
  apply (NeverAbsent.lift _).bind
  intro _
  exact .ofExcept hresult

end StoreProvider

namespace Connection

open Server (Command Reply)

variable (connection : Connection) (word key : String)

theorem neverAbsent_reach : NeverAbsent (connection.reach word key) := by
  apply NeverAbsent.get.bind
  intro state
  split
  · exact .pure state
  · exact (NeverAbsent.set _).bind fun _ => .throw rfl

theorem neverAbsent_ask (command : Command) (read? : Reply → Option α) :
    NeverAbsent (connection.ask word key command read?) := by
  apply (connection.neverAbsent_reach word key).bind
  intro state
  rcases state.server.data.execute command with ⟨reply, data⟩
  apply (NeverAbsent.set _).bind
  intro _
  cases read? reply with
  | some answer => exact .pure answer
  | none => exact .throw rfl

theorem neverAbsent_transact (commands : List Command) :
    NeverAbsent (connection.transact word key commands) :=
  (connection.neverAbsent_reach word key).bind fun _ => .set _

theorem neverAbsent_ping : NeverAbsent connection.ping :=
  (connection.neverAbsent_ask "PING" "" .ping readWord?).bind fun _ => .pure ()

theorem neverAbsent_probeKind : NeverAbsent (connection.probeKind key) := by
  apply (connection.neverAbsent_ask "TYPE" key (.kind key) readWord?).bind
  intro kind
  cases KeyKind.ofTag? kind with
  | some kind => exact .pure kind
  | none => exact .throw rfl

theorem neverAbsent_storeValue (value : StoredValue) :
    NeverAbsent (connection.store.storeValue key value) := by
  cases value with
  | string text => exact connection.neverAbsent_ask "SET" key (.set key text) readDone?
  | hash fields =>
      exact connection.neverAbsent_transact "HSET" key
        (.delete key :: if fields.isEmpty then [] else [.setFields key fields.entries])
  | list entries =>
      exact connection.neverAbsent_transact "RPUSH" key
        (.delete key :: if entries.isEmpty then [] else [.append key entries])

end Connection

namespace Pool

variable (pool : Pool)

theorem neverAbsent_connect : NeverAbsent pool.connect := by
  apply NeverAbsent.get.bind
  intro state
  cases state.server.accept? pool.locator.address with
  | none => exact .throw rfl
  | some accepted =>
      apply (NeverAbsent.set _).bind
      intro _
      split
      · exact .pure _
      · exact .throw rfl

theorem neverAbsent_checkout : NeverAbsent pool.checkout := by
  apply NeverAbsent.get.bind
  intro state
  match state.slots.acquire pool.settings.maxActive (pool.isFit state) with
  | (.kept connection, slots) => exact (NeverAbsent.set _).bind fun _ => .pure connection
  | (.full, slots) => exact (NeverAbsent.set _).bind fun _ => .throw rfl
  | (.fresh, slots) =>
      apply (NeverAbsent.set _).bind
      intro _
      apply pool.neverAbsent_connect.observe_bind
      intro result hresult
      cases result with
      | ok connection => exact .pure connection
      | error failure =>
          exact (NeverAbsent.lift (modify release)).bind fun _ => .throw (hresult failure rfl)

theorem neverAbsent_check : NeverAbsent pool.check := by
  apply pool.neverAbsent_checkout.bind
  intro connection
  apply connection.neverAbsent_ping.observe_bind
  intro result hresult
  exact (NeverAbsent.lift _).bind fun _ => .ofExcept hresult

end Pool

namespace Engine

variable (settings : Settings) (connection : Connection) (scope : Scope)

theorem neverAbsent_holds {e : Engine σ} (h : ∀ name, NeverAbsent (e.store.probeKind name))
    (wanted : KeyKind) (name : String) : NeverAbsent (e.holds wanted name) := by
  apply (h name).observe_bind
  intro result hresult
  cases result with
  | ok kind => exact .pure (kind == wanted)
  | error failure =>
      simp only
      split
      · exact .throw (hresult failure rfl)
      · exact .pure false

/-- What a lookup asks a connection for fails in other ways only. -/
theorem alike_connection :
    (⟨settings, connection.store⟩ : Engine PoolState).Alike
      (fun (α : Type) (action _ : Action PoolState α) => NeverAbsent action) scope
      ⟨settings, connection.store⟩ scope where
  keyPrefix := rfl
  paths := rfl
  holds := fun {wanted} _ name =>
    neverAbsent_holds (fun name => connection.neverAbsent_probeKind name) wanted name
  getScalar name := connection.neverAbsent_ask "GET" name (.get name) Connection.readText?
  getHash name := connection.neverAbsent_ask "HGETALL" name (.getFields name) Connection.readFields?
  hasHashField name field :=
    connection.neverAbsent_ask "HEXISTS" name (.hasField name field) Connection.readTruth?
  getHashField name field :=
    connection.neverAbsent_ask "HGET" name (.getField name field) Connection.readText?
  getList name := connection.neverAbsent_ask "LRANGE" name (.getEntries name) Connection.readTexts?

/-- The lookups themselves never say that a key is not found: a manager does. -/
theorem neverAbsent_serve (request : Request) :
    NeverAbsent ((⟨settings, connection.store⟩ : Engine PoolState).serve scope request) :=
  (alike_connection settings connection scope).serve NeverAbsent.congruence rfl
    (fun _ _ => .throw rfl) request

end Engine

namespace Import

theorem neverAbsent_storeFiles (settings : Settings) (connection : Connection)
    (files : List FileTree.Listed) (report : ImportReport) :
    NeverAbsent (storeFiles settings connection.store report files) := by
  induction files generalizing report with
  | nil => exact .pure report
  | cons file rest ih =>
      rw [storeFiles]
      cases decodeFile settings file with
      | none => exact ih _
      | some stored =>
          apply (connection.neverAbsent_storeValue stored.1 stored.2).observe_bind
          intro result hresult
          cases result with
          | ok => exact ih _
          | error failure =>
              simp only
              split
              · exact .throw (hresult failure rfl)
              · exact ih _

end Import

namespace Settings

theorem notAbsent_validate (settings : Settings) : NotAbsent settings.validate := by
  rw [validate]
  cases settings.defect? with
  | none => exact .ok ()
  | some defect => exact .error rfl

theorem notAbsent_ofDocument (document : Yaml.Value) : NotAbsent (ofDocument document) := by
  rw [ofDocument]
  cases ofValue? document with
  | none => exact .error rfl
  | some settings => exact .ok settings

theorem notAbsent_parseDocument (content : String) : NotAbsent (parseDocument content) := by
  rw [parseDocument]
  split
  · exact .ok _
  · cases Yaml.Value.ofStream? content with
    | none => exact .error rfl
    | some document => exact .ok document

end Settings

namespace SettingsFile

theorem notAbsent_contentOf (node : FileNode) : NotAbsent (contentOf node) := by
  cases node with
  | file content =>
      rw [contentOf]
      split
      · exact .error rfl
      · cases String.fromUTF8? content with
        | none => exact .error rfl
        | some text => exact .ok text
  | locked content =>
      rw [contentOf]
      split <;> exact .error rfl
  | directory entries => exact .error rfl
  | symlink target => exact .error rfl

theorem notAbsent_load (tree : FileTree) (path : ByteArray) : NotAbsent (load tree path) := by
  rw [load]
  cases tree.locate path with
  | error fault => exact .error rfl
  | ok way =>
      apply (notAbsent_contentOf (tree.nodeAt way)).bind
      intro content
      apply (Settings.notAbsent_parseDocument content).bind
      intro document
      apply (Settings.notAbsent_ofDocument document).bind
      intro settings
      exact .ok _

theorem notAbsent_applyTo (file : SettingsFile) (base : Settings) :
    NotAbsent (file.applyTo base) :=
  Settings.notAbsent_ofDocument _

end SettingsFile

namespace Overrides

theorem neverAbsent_applyOne (o : Overrides) (setting : Overridable) :
    NeverAbsent (o.applyOne setting) := by
  rw [applyOne]
  cases o.values.get? setting.name with
  | none => exact .pure ()
  | some raw =>
      apply NeverAbsent.get.bind
      intro settings
      cases setting.assign? settings raw with
      | none => exact .throw rfl
      | some settings => exact .set settings

theorem neverAbsent_forM_applyOne (o : Overrides) (list : List Overridable) :
    NeverAbsent (list.forM o.applyOne) := by
  induction list with
  | nil => exact .pure ()
  | cons setting rest ih => exact (o.neverAbsent_applyOne setting).bind fun _ => ih

end Overrides

namespace SettingsLoader

variable (loader : SettingsLoader) (tree : FileTree) (locations : List ByteArray)

theorem notAbsent_withFile : NotAbsent (loader.withFile tree locations) := by
  rw [withFile]
  cases loader.file with
  | none => exact .ok loader.base
  | path path =>
      exact (SettingsFile.notAbsent_load tree path).bind fun file => file.notAbsent_applyTo _
  | discover =>
      rw [SettingsFile.discoverIn]
      cases locations.find? tree.isFile with
      | none => exact .ok loader.base
      | some path =>
          apply ((SettingsFile.notAbsent_load tree path).map some).bind
          intro file?
          cases file? with
          | none => exact .ok loader.base
          | some file => exact file.notAbsent_applyTo loader.base

theorem notAbsent_overridden (settings : Settings) : NotAbsent (loader.overridden settings) := by
  rw [overridden]
  cases loader.overrides with
  | none => exact .ok settings
  | some overrides =>
      have happly := overrides.neverAbsent_forM_applyOne Overridable.inOrder settings
      dsimp only
      split
      · exact .ok _
      · next failure left hout => exact .error (happly failure (congrArg Prod.fst hout))

theorem notAbsent_load : NotAbsent (loader.load tree locations) := by
  apply (loader.notAbsent_withFile tree locations).bind
  intro laid
  apply (loader.notAbsent_overridden laid).bind
  intro settings
  exact settings.notAbsent_validate.bind fun _ => .ok settings

end SettingsLoader

theorem Pool.notAbsent_new (settings : RedisSettings) : NotAbsent (Pool.new settings) := by
  rw [new]
  cases Server.Locator.parse? settings.url with
  | none => exact .error rfl
  | some locator => exact .ok _

theorem Manager.notAbsent_new (settings : Settings) (provider : StoreProvider σ η) :
    NotAbsent (Manager.new settings provider) :=
  settings.notAbsent_validate.bind fun _ => .ok _

end LayeredConfig
