/-
The status that the program ends with.  A key is said not to be found by the
lookups of a string, a hash and a list alone, after they have come to their
end with an empty answer.  No other failure, on whatever way to it, is taken
for that one.
-/
import LayeredConfig.CommandLine
import LayeredConfig.Proofs.Absence

namespace LayeredConfig

open LayeredConfig.Action

variable {σ η : Type}

namespace FileTree

theorem walk_empty {links : Nat} {names : PathNames} {way : Way}
    (h : walk {} links [] names = .ok way) : way = [] := by
  induction names with
  | nil =>
      rw [walk] at h
      cases h
      rfl
  | cons name rest ih =>
      rw [walk] at h
      simp only [nodeAt, FileNode.emptyDirectory, FileNode.child?, List.tail_nil] at h
      split at h
      · exact ih h
      · split at h
        · exact ih h
        · split at h <;> cases h

theorem locate_empty {path : ByteArray} {way : Way} (h : locate {} path = .ok way) :
    way = [] := by
  have hcwd : walk {} linkLimit [] [] = .ok [] := by rw [walk]
  simp only [locate, hcwd] at h
  split at h
  · cases h
  · split at h
    · cases h
    · split at h
      · cases h
      · split at h <;> exact walk_empty h

/-- Where nothing is there are no files. -/
theorem isFile_empty (path : ByteArray) : isFile {} path = false := by
  rw [isFile]
  cases hlocate : locate {} path with
  | error fault => rfl
  | ok way =>
      rw [locate_empty hlocate]
      rfl

end FileTree

namespace CommandLine

theorem notAbsent_loadSettings (options : Options) (s : Surroundings) :
    NotAbsent (loadSettings options s) := by
  apply ((settingsLoader options s).notAbsent_load s.tree _).bind
  intro settings
  exact (options.applyTo settings).notAbsent_validate.bind fun _ => .ok _

/-- The key of a request for a string, a hash or a list, and the lookup that it
makes: its answer may be empty. -/
def Request.search? (manager : Manager σ η) (scope : Scope) :
    (request : Request) → Option (String × Action σ Answer)
  | .string key => some (key, .string <$> manager.withEngine fun e => e.lookupScalar scope key)
  | .hash key => some (key, .hash <$> manager.withEngine fun e => e.lookupHash scope key)
  | .list key => some (key, .list <$> manager.withEngine fun e => e.lookupList scope key)
  | _ => none

section Perform

variable {pool : Pool} {manager : Manager PoolState Connection} {tree : FileTree}
  {options : Options} {request : Request}

theorem neverAbsent_withEngine (hpool : manager.provider = pool.provider) (scope : Scope)
    (request : LayeredConfig.Request) :
    NeverAbsent (manager.withEngine fun e => e.serve scope request) := by
  rw [Manager.withEngine, hpool]
  exact StoreProvider.neverAbsent_withStore pool.neverAbsent_checkout fun connection =>
    Engine.neverAbsent_serve manager.settings connection scope request

theorem neverAbsent_search (hpool : manager.provider = pool.provider) {scope : Scope}
    {key : String} {search : Action PoolState Answer}
    (hsearch : request.search? manager scope = some (key, search)) : NeverAbsent search := by
  cases request with
  | string key =>
      cases hsearch
      exact (neverAbsent_withEngine hpool scope (.scalar key)).map Answer.string
  | hash key =>
      cases hsearch
      exact (neverAbsent_withEngine hpool scope (.hash key)).map Answer.hash
  | list key =>
      cases hsearch
      exact (neverAbsent_withEngine hpool scope (.list key)).map Answer.list
  | _ => cases hsearch

/-- Any other request never says that a key is not found. -/
theorem neverAbsent_perform (tree : FileTree) (hpool : manager.provider = pool.provider)
    (hsearch : request.search? manager (Scope.ofPairs options.scope) = none) :
    NeverAbsent (perform manager pool tree options request) := by
  cases request with
  | field key field =>
      apply NeverAbsent.map
      exact (neverAbsent_withEngine hpool _ (.hashField key field)).bind fun _ => .pure _
  | index key index =>
      apply NeverAbsent.map
      exact (neverAbsent_withEngine hpool _ (.listIndex key index)).bind fun _ => .pure _
  | loadDefaults directory =>
      refine NeverAbsent.bind ?_ fun report => .pure _
      rw [Manager.loadDefaults, hpool]
      cases tree.regularFiles directory with
      | error fault => exact .throw rfl
      | ok files =>
          exact StoreProvider.neverAbsent_withStore pool.neverAbsent_checkout fun connection =>
            Import.neverAbsent_storeFiles manager.settings connection files {}
  | check => exact pool.neverAbsent_check.bind fun _ => .pure _
  | _ => cases hsearch

/-- An answer is made of what a lookup finds before it is looked at. -/
theorem map_bind_orNotFound {α : Type} (render : Answer → String) (key : String)
    (make : α → Answer) (look : Action PoolState α) :
    (render <$> do
        let found ← look
        Manager.orNotFound key (make found)) =
      make <$> look >>= fun answer => render <$> Manager.orNotFound key answer := by
  rw [bind_map_left, ← map_bind]

/-- A request that can come to nothing looks up first, and looks at the answer
then. -/
theorem perform_eq_search (pool : Pool) (tree : FileTree) {key : String}
    {search : Action PoolState Answer}
    (hsearch : request.search? manager (Scope.ofPairs options.scope) = some (key, search)) :
    ∃ render : Answer → String, perform manager pool tree options request =
      search >>= fun answer => render <$> Manager.orNotFound key answer := by
  let render (answer : Answer) : String := (options.format.getD .json).render answer ++ "\n"
  refine ⟨render, ?_⟩
  cases request with
  | string key =>
      cases hsearch
      exact map_bind_orNotFound render key .string _
  | hash key =>
      cases hsearch
      exact map_bind_orNotFound render key .hash _
  | list key =>
      cases hsearch
      exact map_bind_orNotFound render key .list _
  | _ => cases hsearch

theorem outcome_map_orNotFound (render : Answer → String) (key : String) (answer : Answer)
    (state : PoolState) :
    (render <$> Manager.orNotFound key answer : Action PoolState String).outcome state =
      if answer.isEmpty then (.error (.keyNotFound key), state)
      else (.ok (render answer), state) := by
  rw [Manager.orNotFound]
  split
  · rfl
  · rfl

/-- A key is said not to be found if the lookup came to its end with nothing,
and then only. -/
theorem perform_absent_iff (hpool : manager.provider = pool.provider) {state left : PoolState}
    {key : String} :
    (perform manager pool tree options request).outcome state =
        (.error (.keyNotFound key), left) ↔
      ∃ search answer,
        request.search? manager (Scope.ofPairs options.scope) = some (key, search) ∧
        search.outcome state = (.ok answer, left) ∧ answer.isEmpty = true := by
  cases hsearch : request.search? manager (Scope.ofPairs options.scope) with
  | none =>
      have hnever := neverAbsent_perform tree hpool hsearch state
      refine ⟨fun h => ?_, by rintro ⟨_, _, ⟨⟩, _⟩⟩
      have hother := hnever (.keyNotFound key) (congrArg Prod.fst h)
      cases hother
  | some sought =>
      obtain ⟨own, search⟩ := sought
      obtain ⟨render, hperform⟩ := perform_eq_search pool tree hsearch
      rw [hperform, outcome_bind]
      constructor
      · intro h
        cases hout : search.outcome state with
        | mk result after =>
            rw [hout] at h
            cases result with
            | error failure =>
                have hother := neverAbsent_search hpool hsearch state failure
                  (congrArg Prod.fst hout)
                cases h
                cases hother
            | ok answer =>
                simp only [outcome_map_orNotFound] at h
                split at h
                · next hempty =>
                    cases h
                    exact ⟨search, answer, rfl, hout, hempty⟩
                · cases h
      · rintro ⟨_, answer, ⟨⟩, hout, hempty⟩
        rw [hout]
        simp only [outcome_map_orNotFound, if_pos hempty]

end Perform

/-- The arguments ask for a lookup that says so if nothing is under its key;
settings and a pool are there for it, and it comes to its end with nothing. -/
def FindsNothing (arguments : List ByteArray) (s : Surroundings) (server : Server)
    (key : String) : Prop :=
  ∃ options request settings pool manager search answer left,
    Arguments.parse arguments = .run options request ∧ loadSettings options s = .ok settings ∧
    Pool.new settings.redis = .ok pool ∧ Manager.new settings pool.provider = .ok manager ∧
    request.search? manager (Scope.ofPairs options.scope) = some (key, search) ∧
    search.outcome { server := server } = (.ok answer, left) ∧ answer.isEmpty = true

theorem serve_absent_iff {options : Options} {request : Request} {s : Surroundings}
    {state left : PoolState} {key : String} :
    (serve options request s).outcome state = (.error (.keyNotFound key), left) ↔
      ∃ settings pool manager search answer, loadSettings options s = .ok settings ∧
        Pool.new settings.redis = .ok pool ∧ Manager.new settings pool.provider = .ok manager ∧
        request.search? manager (Scope.ofPairs options.scope) = some (key, search) ∧
        search.outcome state = (.ok answer, left) ∧ answer.isEmpty = true := by
  have hprovider {settings : Settings} {pool : Pool} {manager : Manager PoolState Connection}
      (hmanager : Manager.new settings pool.provider = .ok manager) :
      manager.provider = pool.provider :=
    congrArg Manager.provider (Manager.eq_of_new hmanager)
  rw [serve, outcome_ofExcept_bind_absent_iff (notAbsent_loadSettings options s)]
  constructor
  · rintro ⟨settings, hsettings, hserve⟩
    obtain ⟨pool, hpool, hserve⟩ :=
      (outcome_ofExcept_bind_absent_iff (Pool.notAbsent_new settings.redis)).1 hserve
    obtain ⟨manager, hmanager, hperform⟩ :=
      (outcome_ofExcept_bind_absent_iff (Manager.notAbsent_new settings pool.provider)).1 hserve
    obtain ⟨search, answer, hfound⟩ := (perform_absent_iff (hprovider hmanager)).1 hperform
    exact ⟨settings, pool, manager, search, answer, hsettings, hpool, hmanager, hfound⟩
  · rintro ⟨settings, pool, manager, search, answer, hsettings, hpool, hmanager, hfound⟩
    refine ⟨settings, hsettings, ?_⟩
    rw [outcome_ofExcept_bind_absent_iff (Pool.notAbsent_new settings.redis)]
    refine ⟨pool, hpool, ?_⟩
    rw [outcome_ofExcept_bind_absent_iff (Manager.notAbsent_new settings pool.provider)]
    exact ⟨manager, hmanager, (perform_absent_iff (hprovider hmanager)).2 ⟨search, answer, hfound⟩⟩

/-- What a request comes to. -/
def Outcome.ofResult : Except Failure String → Outcome
  | .ok output => .done output
  | .error failure => .failed failure

section Run

variable {arguments : List ByteArray} {s : Surroundings} {server : Server}

theorem findsNothing_iff {options : Options} {request : Request} {result : Except Failure String}
    {left : PoolState} {key : String} (hparse : Arguments.parse arguments = .run options request)
    (hserve : (serve options request s).outcome { server := server } = (result, left)) :
    FindsNothing arguments s server key ↔ result = .error (.keyNotFound key) := by
  constructor
  · rintro ⟨_, _, settings, pool, manager, search, answer, _, hother, hfound⟩
    rw [hparse] at hother
    cases hother
    rw [serve_absent_iff.2 ⟨settings, pool, manager, search, answer, hfound⟩] at hserve
    cases hserve
    rfl
  · rintro rfl
    obtain ⟨settings, pool, manager, search, answer, hfound⟩ := serve_absent_iff.1 hserve
    exact ⟨options, request, settings, pool, manager, search, answer, left, hparse, hfound⟩

/-- Arguments that ask for neither the version nor help are refused, or their
request is carried out. -/
theorem run_cases (s : Surroundings) (server : Server)
    (hversion : Arguments.parse arguments ≠ .version)
    (hhelp : Arguments.parse arguments ≠ .help) :
    (Arguments.parse arguments = .unusable ∧ (run arguments s server).1 = .unusable) ∨
      ∃ options request result left, Arguments.parse arguments = .run options request ∧
        (serve options request s).outcome { server := server } = (result, left) ∧
        (run arguments s server).1 = .ofResult result := by
  rw [run]
  cases hparse : Arguments.parse arguments with
  | version => exact absurd hparse hversion
  | help => exact absurd hparse hhelp
  | unusable => exact .inl ⟨rfl, rfl⟩
  | run options request =>
      rcases hserve : (serve options request s).outcome { server := server } with ⟨result, left⟩
      refine .inr ⟨options, request, result, left, rfl, hserve, ?_⟩
      simp only [hserve]
      cases result with
      | ok output => rfl
      | error failure => rfl

end Run

/-- Surroundings without files and variables. -/
def bareSurroundings : Surroundings := ⟨{}, []⟩

/-- A server without keys, at the place where the settings say by default that
it is. -/
def emptyServer : Server where
  address := .tcp "127.0.0.1" 6379

/-- The pool that the default settings make. -/
def defaultPool : Pool := ⟨{}, { address := emptyServer.address }⟩

/-- Arguments that ask for a string. -/
def lookupArguments : List ByteArray := ["string".toUTF8, "k".toUTF8]

theorem loadSettings_bareSurroundings : loadSettings {} bareSurroundings = .ok {} := by
  have hnone (locations : List ByteArray) :
      locations.find? bareSurroundings.tree.isFile = none :=
    List.find?_eq_none.2 fun path _ => by
      rw [bareSurroundings, FileTree.isFile_empty]
      exact Bool.false_ne_true
  simp only [loadSettings, SettingsLoader.load, SettingsLoader.withFile, settingsLoader,
    SettingsFile.discoverIn, Option.elim_none, hnone]
  decide +kernel

/-- Arguments with a variable of the scope that has no value. -/
def refusedArguments : List ByteArray :=
  ["string".toUTF8, "k".toUTF8, "--scope".toUTF8, "novalue".toUTF8]

end CommandLine

end LayeredConfig
