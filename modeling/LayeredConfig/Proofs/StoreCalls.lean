/-
What a lookup asks of its store, and what it does when the store fails.  A
store can be watched: each call is written down with the failure that it ended
in, and nothing else changes.  On every store a lookup passes over the failure
of a probe as long as the store can be reached; any other failure ends it.
-/
import LayeredConfig.Proofs.MemoryView
import LayeredConfig.Proofs.Parallel

namespace LayeredConfig

open LayeredConfig.Action

variable {σ α β : Type}

/-- A call of an operation of a store. -/
inductive StoreCall where
  | probeKind (key : String)
  | hasKey (key : String)
  | getScalar (key : String)
  | setScalar (key value : String)
  | getHash (key : String)
  | setHash (key : String) (fields : NameMap String)
  | getHashField (key field : String)
  | setHashField (key field value : String)
  | hasHashField (key field : String)
  | getList (key : String)
  | setList (key : String) (entries : List String)
  | appendList (key value : String)
  | deleteKey (key : String)
  | listKeys (filter : String)
deriving DecidableEq

/-- A call that was made, with the failure that it ended in, if any. -/
structure MadeCall where
  call : StoreCall
  failure? : Option Failure
deriving DecidableEq

/-- The state of a store with the calls that have been made, in their order. -/
structure Watched (σ : Type) where
  state : σ
  calls : List MadeCall

/-- A failure to reach the store does not say that anything is not there. -/
theorem Failure.not_missing_of_isConnectivity {failure : Failure}
    (h : failure.isConnectivity = true) :
    failure.isNotFound = false ∧ failure.isMissing = false := by
  cases failure with
  | backendUnavailable => exact ⟨rfl, rfl⟩
  | poolExhausted => exact ⟨rfl, rfl⟩
  | _ => cases h

def failureOf? : Except Failure α → Option Failure
  | .ok _ => none
  | .error failure => some failure

theorem eq_error_of_failureOf? {result : Except Failure α} {failure : Failure}
    (h : failureOf? result = some failure) : result = .error failure := by
  cases result with
  | ok value => cases h
  | error other => rw [Option.some.inj h]

/-- Make a call and write it down. -/
def Action.watched (call : StoreCall) (action : Action σ α) : Action (Watched σ) α :=
  ExceptT.mk fun past =>
    let (result, left) := action.outcome past.state
    (result, ⟨left, past.calls ++ [⟨call, failureOf? result⟩]⟩)

theorem Action.outcome_watched (call : StoreCall) (action : Action σ α) (past : Watched σ) :
    (action.watched call).outcome past =
      ((action.outcome past.state).1, ⟨(action.outcome past.state).2,
        past.calls ++ [⟨call, failureOf? (action.outcome past.state).1⟩]⟩) := rfl

/-- The same store, with every call written down. -/
def KeyStore.watched (store : KeyStore σ) : KeyStore (Watched σ) where
  name := store.name
  probeKind key := (store.probeKind key).watched (.probeKind key)
  hasKey key := (store.hasKey key).watched (.hasKey key)
  getScalar key := (store.getScalar key).watched (.getScalar key)
  setScalar key value := (store.setScalar key value).watched (.setScalar key value)
  getHash key := (store.getHash key).watched (.getHash key)
  setHash key fields := (store.setHash key fields).watched (.setHash key fields)
  getHashField key field := (store.getHashField key field).watched (.getHashField key field)
  setHashField key field value :=
    (store.setHashField key field value).watched (.setHashField key field value)
  hasHashField key field := (store.hasHashField key field).watched (.hasHashField key field)
  getList key := (store.getList key).watched (.getList key)
  setList key entries := (store.setList key entries).watched (.setList key entries)
  appendList key value := (store.appendList key value).watched (.appendList key value)
  deleteKey key := (store.deleteKey key).watched (.deleteKey key)
  listKeys filter := (store.listKeys filter).watched (.listKeys filter)

/-- The same store, with probes that say that nothing is there where they
failed although the store could be reached. -/
def KeyStore.forgiving (store : KeyStore σ) : KeyStore σ :=
  { store with
    probeKind := fun key => do
      let reply ← Action.observe (store.probeKind key)
      Action.ofExcept (KeyKind.ofProbe reply) }

/-- Among the calls of a run only the failures of probes are passed over, and
only if the store can be reached; any other failure ends the calls and is the
result. -/
def Heeded (calls : List MadeCall) (result : Except Failure α) : Prop :=
  ∀ before call failure after, calls = before ++ ⟨call, some failure⟩ :: after →
    ((∃ key, call = .probeKind key) ∧ failure.isConnectivity = false) ∨
      (after = [] ∧ result = .error failure)

namespace Heeded

theorem nil (result : Except Failure α) : Heeded [] result := by
  intro before call failure after h
  exact absurd h (by simp)

/-- One call is heeded if its failure is passed over or is the result. -/
theorem single {made : MadeCall} {result : Except Failure α}
    (h : ∀ failure, made.failure? = some failure →
      ((∃ key, made.call = .probeKind key) ∧ failure.isConnectivity = false) ∨
        result = .error failure) : Heeded [made] result := by
  intro before call failure after hcalls
  cases before with
  | nil =>
      obtain ⟨rfl, rfl⟩ := List.cons.inj hcalls
      exact (h failure rfl).imp_right fun hresult => ⟨rfl, hresult⟩
  | cons first rest => exact absurd (congrArg List.length hcalls) (by simp)

/-- What a failed run would have answered makes no difference. -/
theorem of_error {calls : List MadeCall} {failure : Failure}
    (h : Heeded calls (.error failure : Except Failure α)) :
    Heeded calls (.error failure : Except Failure β) := by
  intro before call other after hcalls
  refine (h before call other after hcalls).imp_right fun hlast => ⟨hlast.1, ?_⟩
  rw [Except.error.inj hlast.2]

/-- What goes on after an answer has passed over all failures so far. -/
theorem append {first rest : List MadeCall} {value : α} {result : Except Failure β}
    (hfirst : Heeded first (.ok value : Except Failure α)) (hrest : Heeded rest result) :
    Heeded (first ++ rest) result := by
  intro before call failure after hcalls
  rcases List.append_eq_append_iff.1 hcalls with ⟨between, rfl, hafter⟩ | ⟨between, hfirst', hrest'⟩
  · exact hrest between call failure after hafter
  · -- a failure among the first calls cannot be their result, which is an answer
    cases between with
    | nil => exact hrest [] call failure after hrest'.symm
    | cons made between =>
        obtain ⟨rfl, _⟩ := List.cons.inj hrest'
        rcases hfirst before call failure between hfirst' with hpassed | ⟨_, hresult⟩
        · exact Or.inl hpassed
        · cases hresult

end Heeded

/-- The second action does on a watched store what the first does on the store
itself, and heeds the failures of the calls that it makes. -/
def Watches (action : Action σ α) (watched : Action (Watched σ) α) : Prop :=
  ∀ past, ∃ calls,
    watched.outcome past =
      ((action.outcome past.state).1, ⟨(action.outcome past.state).2, past.calls ++ calls⟩) ∧
    Heeded calls (action.outcome past.state).1

namespace Watches

/-- An action that makes no call. -/
theorem of_no_call {action : Action σ α} {watched : Action (Watched σ) α}
    (h : ∀ past, watched.outcome past =
      ((action.outcome past.state).1, ⟨(action.outcome past.state).2, past.calls⟩)) :
    Watches action watched := by
  intro past
  refine ⟨[], ?_, Heeded.nil _⟩
  rw [h, List.append_nil]

/-- A call that ends the run if it fails. -/
theorem call (call : StoreCall) (action : Action σ α) : Watches action (action.watched call) := by
  intro past
  refine ⟨_, outcome_watched call action past, Heeded.single ?_⟩
  intro failure hfailure
  exact Or.inr (eq_error_of_failureOf? hfailure)

theorem congruence :
    Congruence fun (α : Type) (action : Action σ α) (watched : Action (Watched σ) α) =>
      Watches action watched where
  pure value := of_no_call fun _ => rfl
  missing _ := of_no_call fun _ => rfl
  bind := by
    intro α β action watched next watchedNext h hnext past
    obtain ⟨calls, hwatched, hheeded⟩ := h past
    cases hout : action.outcome past.state with
    | mk result left =>
        rw [hout] at hwatched hheeded
        cases result with
        | error failure =>
            -- nothing comes second, so these are all calls
            rw [outcome_bind_of_error hout, outcome_bind_of_error hwatched]
            exact ⟨calls, rfl, hheeded.of_error⟩
        | ok value =>
            obtain ⟨later, hlater, hrest⟩ := hnext value ⟨left, past.calls ++ calls⟩
            rw [outcome_bind_of_ok hout, outcome_bind_of_ok hwatched, hlater]
            refine ⟨calls ++ later, ?_, hheeded.append hrest⟩
            rw [List.append_assoc]

end Watches

namespace Engine

/-- The same engine, on its store with every call written down. -/
def watched (e : Engine σ) : Engine (Watched σ) := ⟨e.settings, e.store.watched⟩

def forgiving (e : Engine σ) : Engine σ := ⟨e.settings, e.store.forgiving⟩

/-- A probe is the one call whose failure need not be the result. -/
theorem watches_holds (e : Engine σ) {wanted : KeyKind} (hwanted : wanted ≠ .none)
    (name : String) : Watches (e.holds wanted name) (e.watched.holds wanted name) := by
  intro past
  have hprobe : (e.watched.store.probeKind name).outcome past = _ :=
    outcome_watched (.probeKind name) (e.store.probeKind name) past
  rw [outcome_holds e hwanted, outcome_holds e.watched hwanted, hprobe]
  refine ⟨_, rfl, Heeded.single ?_⟩
  intro failure hfailure
  rw [eq_error_of_failureOf? hfailure]
  by_cases hreach : failure.isConnectivity = true
  · right
    rw [KeyKind.ofProbe, if_pos hreach]
    rfl
  · exact Or.inl ⟨⟨name, rfl⟩, Bool.eq_false_iff.2 hreach⟩

/-- Every other read is a call that ends the run if it fails. -/
theorem alike_watched (e : Engine σ) (scope : Scope) :
    e.Alike (fun _ => Watches) scope e.watched scope where
  keyPrefix := rfl
  paths := rfl
  holds hwanted name := e.watches_holds hwanted name
  getScalar name := Watches.call (.getScalar name) _
  getHash name := Watches.call (.getHash name) _
  hasHashField name field := Watches.call (.hasHashField name field) _
  getHashField name field := Watches.call (.getHashField name field) _
  getList name := Watches.call (.getList name) _

/-- A probe that fails although the store can be reached tells a lookup as much
as one that finds nothing. -/
theorem holds_forgiving (e : Engine σ) {wanted : KeyKind} (hwanted : wanted ≠ .none)
    (name : String) : e.forgiving.holds wanted name = e.holds wanted name := by
  apply eq_of_outcome_eq
  intro state
  have hprobe : (e.forgiving.store.probeKind name).outcome state =
      (KeyKind.ofProbe ((e.store.probeKind name).outcome state).1,
        ((e.store.probeKind name).outcome state).2) := rfl
  have htwice : ∀ reply, KeyKind.ofProbe (KeyKind.ofProbe reply) = KeyKind.ofProbe reply := by
    intro reply
    cases reply with
    | ok kind => rfl
    | error failure =>
        by_cases hreach : failure.isConnectivity = true
        · simp [KeyKind.ofProbe, hreach]
        · simp [KeyKind.ofProbe, hreach]
  rw [outcome_holds e.forgiving hwanted, outcome_holds e hwanted, hprobe, htwice]

theorem alike_forgiving (e : Engine σ) (scope : Scope) :
    e.forgiving.Alike (fun _ action other => action = other) scope e scope where
  keyPrefix := rfl
  paths := rfl
  holds hwanted name := e.holds_forgiving hwanted name
  getScalar _ := rfl
  getHash _ := rfl
  hasHashField _ _ := rfl
  getHashField _ _ := rfl
  getList _ := rfl

/-- Failures of a store are never swallowed, whatever the store.  Written down
or not, a request makes the same calls.  If one of them fails, either it is a
probe and the store can be reached, and then the request goes on as if the
probe had found nothing; or it is the last call and the request fails in the
same way.  So a request that loses its store on the way is never answered, and
never says that something is not there. -/
theorem serve_heeds_failures (e : Engine σ) (scope : Scope) (request : Request) (state : σ) :
    (∃ calls,
      (e.watched.serve scope request).outcome ⟨state, []⟩ =
        (((e.serve scope request).outcome state).1,
          ⟨((e.serve scope request).outcome state).2, calls⟩) ∧
      Heeded calls ((e.serve scope request).outcome state).1 ∧
      ∀ call failure, ⟨call, some failure⟩ ∈ calls → failure.isConnectivity = true →
        ((e.serve scope request).outcome state).1 = .error failure ∧
          failure.isNotFound = false ∧ failure.isMissing = false) ∧
    e.forgiving.serve scope request = e.serve scope request := by
  have hwatches : Watches (e.serve scope request) (e.watched.serve scope request) :=
    (e.alike_watched scope).serve Watches.congruence rfl
      (fun _ _ => Watches.of_no_call fun _ => rfl) request
  have hforgiving : e.forgiving.serve scope request = e.serve scope request :=
    (e.alike_forgiving scope).serve Congruence.eq rfl (fun _ _ => rfl) request
  obtain ⟨calls, hcalls, hheeded⟩ := hwatches ⟨state, []⟩
  refine ⟨⟨calls, hcalls, hheeded, ?_⟩, hforgiving⟩
  intro call failure hmem hlost
  obtain ⟨before, after, hsplit⟩ := List.append_of_mem hmem
  have hresult : ((e.serve scope request).outcome state).1 = .error failure := by
    rcases hheeded before call failure after hsplit with ⟨_, hreach⟩ | ⟨_, hresult⟩
    · rw [hlost] at hreach
      cases hreach
    · exact hresult
  exact ⟨hresult, Failure.not_missing_of_isConnectivity hlost⟩

/-- A text that refers to a field. -/
def linked : MemoryStore where
  entries := NameMap.ofList
    [("cfg:default:a", .string "$\x7bh/f\x7d"),
      ("cfg:default:h", .hash (NameMap.ofList [("f", "1")]))]

/-- A store that cannot tell one kind, and is lost when it is asked for fields. -/
def failing : KeyStore MemoryStore :=
  { MemoryStore.store.withProbe fun key =>
      if key = "cfg:site:a" then some (.error (.unsupportedKeyType key "zset")) else none with
    hasHashField := fun _ _ => throw (.poolExhausted 3) }

/-- The calls by which that text is expanded under two layers. -/
def linkedCalls : List MadeCall :=
  [⟨.probeKind "cfg:site:a", some (.unsupportedKeyType "cfg:site:a" "zset")⟩,
    ⟨.probeKind "cfg:default:a", none⟩, ⟨.getScalar "cfg:default:a", none⟩,
    ⟨.probeKind "cfg:site:h", none⟩, ⟨.probeKind "cfg:default:h", none⟩,
    ⟨.hasHashField "cfg:default:h" "f", some (.poolExhausted 3)⟩]

/-- The failed probe is passed over, the loss inside the reference is not. -/
theorem serve_heeds_failures_linked :
    let e : Engine MemoryStore := ⟨{ keyPaths := ["default", "site"] }, failing⟩
    ((e.watched.serve .empty (.scalar "a")).outcome ⟨linked, []⟩).2.calls = linkedCalls ∧
      ((e.serve .empty (.scalar "a")).outcome linked).1 = .error (.poolExhausted 3) := by
  intro e
  obtain ⟨⟨calls, hrun, _, hlost⟩, _⟩ := serve_heeds_failures e .empty (.scalar "a") linked
  have hcalls : ((e.watched.serve .empty (.scalar "a")).outcome ⟨linked, []⟩).2.calls =
      linkedCalls := by decide +kernel
  refine ⟨hcalls, (hlost (.hasHashField "cfg:default:h" "f") (.poolExhausted 3) ?_ rfl).1⟩
  rw [hrun] at hcalls
  change calls = linkedCalls at hcalls
  rw [hcalls]
  decide

end Engine

end LayeredConfig
