/-
What an import asks of a store, whatever the store.  Each file that is a payload
has one call, in the byte order of the names, until a call fails because the
store cannot be reached.  That failure is the result, and nothing is asked of the
store after it; any other failure only leaves its own file out.
-/
import LayeredConfig.Proofs.DirectoryImport
import LayeredConfig.Proofs.StoreCalls

namespace LayeredConfig

open LayeredConfig.Action

variable {σ η α : Type}

/-- The call by which a value is stored. -/
def StoredValue.storing (key : String) : StoredValue → StoreCall
  | string value => .setScalar key value
  | hash fields => .setHash key fields
  | list entries => .setList key entries

theorem KeyStore.storeValue_watched (store : KeyStore σ) (key : String) (value : StoredValue) :
    store.watched.storeValue key value =
      (store.storeValue key value).watched (value.storing key) := by
  cases value <;> rfl

/-- Do something that is not written down. -/
def Action.unwatched (action : Action σ α) : Action (Watched σ) α :=
  ExceptT.mk fun past =>
    let (result, left) := action.outcome past.state
    (result, ⟨left, past.calls⟩)

theorem Action.outcome_unwatched (action : Action σ α) (past : Watched σ) :
    action.unwatched.outcome past =
      ((action.outcome past.state).1, ⟨(action.outcome past.state).2, past.calls⟩) := rfl

namespace StoreProvider

/-- The same provider, with every call on its stores written down.  To take a
store out and to give it back are no calls on it. -/
def watched (provider : StoreProvider σ η) : StoreProvider (Watched σ) η where
  checkout := provider.checkout.unwatched
  store handle := (provider.store handle).watched
  giveBack handle past := ((), ⟨((provider.giveBack handle).run past.state).2, past.calls⟩)

variable {provider : StoreProvider σ η} {state taken : σ} {handle : η}

theorem outcome_withStore_of_error {failure : Failure} {left : σ}
    (h : provider.checkout.outcome state = (.error failure, left))
    (use : KeyStore σ → Action σ α) :
    (provider.withStore use).outcome state = (.error failure, left) :=
  outcome_bind_of_error h _

/-- Whatever becomes of the use of a store, the store is given back. -/
theorem outcome_withStore_of_ok (h : provider.checkout.outcome state = (.ok handle, taken))
    (use : KeyStore σ → Action σ α) :
    (provider.withStore use).outcome state =
      (((use (provider.store handle)).outcome taken).1,
        ((provider.giveBack handle).run ((use (provider.store handle)).outcome taken).2).2) := by
  rw [withStore, outcome_bind_of_ok h, outcome_bind_of_ok (outcome_observe _ taken)]
  rfl

end StoreProvider

/-- The same manager, with every call on its stores written down. -/
def Manager.watched (m : Manager σ η) : Manager (Watched σ) η := ⟨m.settings, m.provider.watched⟩

namespace Import

open FileTree (Listed)

/-- The call by which a file is stored, if it is a payload. -/
def call? (settings : Settings) (file : Listed) : Option StoreCall :=
  file.payload?.map fun payload => payload.2.storing (settings.prefixed payload.1)

variable {settings : Settings} {file : Listed}

theorem call?_eq_none_iff : call? settings file = none ↔ file.payload? = none := by
  rw [call?, Option.map_eq_none_iff]

theorem call?_eq (settings : Settings) (file : Listed) :
    call? settings file =
      (decodeFile settings file).map fun stored => stored.2.storing stored.1 := by
  rw [decodeFile_eq, Option.map_map]
  rfl

/-- A file with a call is no file to be skipped. -/
theorem countP_cons_of_call {call : StoreCall} (h : call? settings file = some call)
    (rest : List Listed) :
    ((file :: rest).countP fun file => file.payload?.isNone) =
      rest.countP fun file => file.payload?.isNone := by
  have hpayload : file.payload? ≠ none := by
    intro hnone
    rw [call?_eq_none_iff.2 hnone] at h
    cases h
  exact List.countP_cons_of_neg (by simpa using hpayload)

/-- How files are imported one after another, on top of what has been reported:
the calls that are made for them, and the result. -/
inductive Course (settings : Settings) :
    ImportReport → List Listed → List MadeCall → Except Failure ImportReport → Prop
  | done (report : ImportReport) : Course settings report [] [] (.ok report)
  | undecodable {report : ImportReport} {file : Listed} {rest : List Listed}
      {calls : List MadeCall} {result : Except Failure ImportReport} :
      call? settings file = none →
      Course settings { report with skipped := report.skipped + 1 } rest calls result →
      Course settings report (file :: rest) calls result
  | stored {report : ImportReport} {file : Listed} {rest : List Listed} {call : StoreCall}
      {calls : List MadeCall} {result : Except Failure ImportReport} :
      call? settings file = some call →
      Course settings { report with stored := report.stored + 1 } rest calls result →
      Course settings report (file :: rest) (⟨call, none⟩ :: calls) result
  | refused {report : ImportReport} {file : Listed} {rest : List Listed} {call : StoreCall}
      {failure : Failure} {calls : List MadeCall} {result : Except Failure ImportReport} :
      call? settings file = some call → failure.isConnectivity = false →
      Course settings { report with skipped := report.skipped + 1 } rest calls result →
      Course settings report (file :: rest) (⟨call, some failure⟩ :: calls) result
  | lost {report : ImportReport} {file : Listed} {rest : List Listed} {call : StoreCall}
      {failure : Failure} :
      call? settings file = some call → failure.isConnectivity = true →
      Course settings report (file :: rest) [⟨call, some failure⟩] (.error failure)

/-- How an import goes on when the write for a file has come to its result. -/
def goOn (settings : Settings) (store : KeyStore σ) (report : ImportReport)
    (rest : List Listed) : Except Failure Unit → Action σ ImportReport
  | .ok () => storeFiles settings store { report with stored := report.stored + 1 } rest
  | .error failure =>
      if failure.isConnectivity then throw failure
      else storeFiles settings store { report with skipped := report.skipped + 1 } rest

theorem storeFiles_of_undecodable (h : decodeFile settings file = none) (store : KeyStore σ)
    (report : ImportReport) (rest : List Listed) :
    storeFiles settings store report (file :: rest) =
      storeFiles settings store { report with skipped := report.skipped + 1 } rest := by
  rw [storeFiles, h]

theorem outcome_storeFiles_of_write {store : KeyStore σ} {key : String} {value : StoredValue}
    {state left : σ} {result : Except Failure Unit}
    (hdecode : decodeFile settings file = some (key, value))
    (hwrite : (store.storeValue key value).outcome state = (result, left))
    (report : ImportReport) (rest : List Listed) :
    (storeFiles settings store report (file :: rest)).outcome state =
      (goOn settings store report rest result).outcome left := by
  have hobserved := outcome_observe (store.storeValue key value) state
  rw [hwrite] at hobserved
  rw [storeFiles, hdecode]
  simp only
  rw [outcome_bind_of_ok hobserved]
  cases result <;> rfl

/-- Files that are stored take such a course, and to write the calls down makes no
difference to it. -/
theorem storeFiles_course (settings : Settings) (store : KeyStore σ) (report : ImportReport)
    (files : List Listed) (past : Watched σ) :
    ∃ calls,
      (storeFiles settings store.watched report files).outcome past =
        (((storeFiles settings store report files).outcome past.state).1,
          ⟨((storeFiles settings store report files).outcome past.state).2,
            past.calls ++ calls⟩) ∧
      Course settings report files calls
        ((storeFiles settings store report files).outcome past.state).1 := by
  induction files generalizing report past with
  | nil =>
      refine ⟨[], ?_, .done report⟩
      rw [List.append_nil]
      rfl
  | cons file rest ih =>
      cases hdecode : decodeFile settings file with
      | none =>
          rw [storeFiles_of_undecodable hdecode, storeFiles_of_undecodable hdecode]
          obtain ⟨calls, hcalls, hcourse⟩ := ih { report with skipped := report.skipped + 1 } past
          have hnone : call? settings file = none := by rw [call?_eq, hdecode, Option.map_none]
          exact ⟨calls, hcalls, .undecodable hnone hcourse⟩
      | some stored =>
          obtain ⟨key, value⟩ := stored
          have hcall : call? settings file = some (value.storing key) := by
            rw [call?_eq, hdecode, Option.map_some]
          rcases hwrite : (store.storeValue key value).outcome past.state with ⟨result, left⟩
          let made : MadeCall := ⟨value.storing key, failureOf? result⟩
          have hwatched : (store.watched.storeValue key value).outcome past =
              (result, ⟨left, past.calls ++ [made]⟩) := by
            rw [store.storeValue_watched, outcome_watched, hwrite]
          rw [outcome_storeFiles_of_write hdecode hwrite,
            outcome_storeFiles_of_write hdecode hwatched]
          -- what is made first stands before what is made for the rest
          have hjoin : ∀ calls, past.calls ++ [made] ++ calls = past.calls ++ made :: calls :=
            fun calls => List.append_assoc past.calls [made] calls
          rcases result with failure | _
          · by_cases hlost : failure.isConnectivity = true
            · simp only [goOn, if_pos hlost]
              exact ⟨[made], rfl, .lost hcall hlost⟩
            · simp only [goOn, if_neg hlost]
              obtain ⟨calls, hcalls, hcourse⟩ :=
                ih { report with skipped := report.skipped + 1 } ⟨left, past.calls ++ [made]⟩
              rw [hjoin] at hcalls
              exact ⟨made :: calls, hcalls, .refused hcall (Bool.eq_false_iff.2 hlost) hcourse⟩
          · obtain ⟨calls, hcalls, hcourse⟩ :=
              ih { report with stored := report.stored + 1 } ⟨left, past.calls ++ [made]⟩
            rw [hjoin] at hcalls
            exact ⟨made :: calls, hcalls, .stored hcall hcourse⟩

/-- Has the store been there for all these calls, whether it took them or not? -/
def Reached (calls : List MadeCall) : Prop :=
  ∀ made ∈ calls, ∀ failure, made.failure? = some failure → failure.isConnectivity = false

/-- The calls end with this one, which is made for one of the files.  Every payload
in front of that file has had its call, and the store was there for it. -/
def EndsAt (settings : Settings) (files : List Listed) (calls : List MadeCall)
    (made : MadeCall) : Prop :=
  ∃ before file after earlier,
    files = before ++ file :: after ∧ calls = earlier ++ [made] ∧
    call? settings file = some made.call ∧
    earlier.map MadeCall.call = before.filterMap (call? settings) ∧ Reached earlier

section Courses

variable {rest files : List Listed} {calls : List MadeCall} {made first : MadeCall}
  {report : ImportReport} {result : Except Failure ImportReport} {failure : Failure}

theorem EndsAt.skip (h : EndsAt settings rest calls made) (hnone : call? settings file = none) :
    EndsAt settings (file :: rest) calls made := by
  obtain ⟨before, last, after, earlier, rfl, hcalls, hlast, hearlier, hreached⟩ := h
  refine ⟨file :: before, last, after, earlier, rfl, hcalls, hlast, ?_, hreached⟩
  rw [List.filterMap_cons_none hnone, hearlier]

theorem EndsAt.cons (h : EndsAt settings rest calls made)
    (hfirst : call? settings file = some first.call) (hthere : Reached [first]) :
    EndsAt settings (file :: rest) (first :: calls) made := by
  obtain ⟨before, last, after, earlier, rfl, rfl, hlast, hearlier, hreached⟩ := h
  refine ⟨file :: before, last, after, first :: earlier, rfl, rfl, hlast, ?_, ?_⟩
  · rw [List.filterMap_cons_some hfirst, List.map_cons, hearlier]
  · exact List.forall_mem_cons.2 ⟨hthere first List.mem_cons_self, hreached⟩

/-- While the store is there, each payload has its call, each call is counted by its
result, and what is no payload is counted as skipped. -/
theorem Course.of_reached (h : Course settings report files calls result)
    (hreached : Reached calls) :
    result = .ok
        ⟨report.stored + calls.countP fun made => made.failure?.isNone,
          report.skipped + (files.countP fun file => file.payload?.isNone) +
            calls.countP fun made => made.failure?.isSome⟩ ∧
      calls.map MadeCall.call = files.filterMap (call? settings) := by
  induction h with
  | done report => exact ⟨rfl, rfl⟩
  | undecodable hnone _ ih =>
      obtain ⟨hresult, hcalls⟩ := ih hreached
      have hpayload := call?_eq_none_iff.1 hnone
      refine ⟨?_, by rw [List.filterMap_cons_none hnone, hcalls]⟩
      rw [hresult, List.countP_cons_of_pos (by rw [hpayload]; rfl)]
      simp only [Except.ok.injEq, ImportReport.mk.injEq, true_and]
      omega
  | stored hcall _ ih =>
      obtain ⟨hresult, hcalls⟩ := ih (List.forall_mem_cons.1 hreached).2
      refine ⟨?_, by rw [List.filterMap_cons_some hcall, List.map_cons, hcalls]⟩
      rw [hresult, countP_cons_of_call hcall, List.countP_cons_of_pos (by rfl),
        List.countP_cons_of_neg (by simp)]
      simp only [Except.ok.injEq, ImportReport.mk.injEq, and_true]
      omega
  | refused hcall hthere _ ih =>
      obtain ⟨hresult, hcalls⟩ := ih (List.forall_mem_cons.1 hreached).2
      refine ⟨?_, by rw [List.filterMap_cons_some hcall, List.map_cons, hcalls]⟩
      rw [hresult, countP_cons_of_call hcall, List.countP_cons_of_neg (by simp),
        List.countP_cons_of_pos (by rfl)]
      simp only [Except.ok.injEq, ImportReport.mk.injEq, true_and]
      omega
  | lost hcall hlost =>
      have hthere := hreached _ List.mem_cons_self _ rfl
      rw [hlost] at hthere
      cases hthere

/-- A call for which the store was not there is the last one, and its failure is the
result. -/
theorem Course.of_lost (h : Course settings report files calls result) (hmade : made ∈ calls)
    (hfailure : made.failure? = some failure) (hlost : failure.isConnectivity = true) :
    result = .error failure ∧ EndsAt settings files calls made := by
  induction h with
  | done report => cases hmade
  | undecodable hnone _ ih => exact ⟨(ih hmade).1, (ih hmade).2.skip hnone⟩
  | stored hcall _ ih =>
      rcases List.mem_cons.1 hmade with rfl | hmade
      · cases hfailure
      · exact ⟨(ih hmade).1, (ih hmade).2.cons hcall (List.forall_mem_singleton.2 nofun)⟩
  | refused hcall hthere _ ih =>
      rcases List.mem_cons.1 hmade with rfl | hmade
      · cases hfailure
        rw [hlost] at hthere
        cases hthere
      · refine ⟨(ih hmade).1, (ih hmade).2.cons hcall (List.forall_mem_singleton.2 ?_)⟩
        rintro _ ⟨⟩
        exact hthere
  | @lost _ file rest _ _ hcall _ =>
      obtain rfl := List.mem_singleton.1 hmade
      cases hfailure
      exact ⟨rfl, [], file, rest, [], rfl, rfl, hcall, rfl, nofun⟩

end Courses

end Import

namespace FileTree

/-- What can be listed is a directory, and the files are listed in the byte order of
their names. -/
theorem regularFiles_ok {tree : FileTree} {path : ByteArray} {files : List Listed}
    (h : tree.regularFiles path = .ok files) :
    (∃ way entries, tree.locate path = .ok way ∧ tree.nodeAt way = .directory entries ∧
      files.Perm (listed entries)) ∧
    files.Pairwise fun a b => a.name.toList ≤ b.name.toList := by
  cases hway : tree.locate path with
  | error fault =>
      rw [regularFiles, hway] at h
      cases h
  | ok way =>
      cases hnode : tree.nodeAt way with
      | directory entries =>
          rw [regularFiles_eq hway hnode] at h
          cases h
          exact ⟨⟨way, entries, rfl, hnode, List.mergeSort_perm _ _⟩, pairwise_mergeSort_le _⟩
      | _ =>
          rw [regularFiles, hway] at h
          simp only [bind, Except.bind, hnode] at h
          cases h

end FileTree

namespace Manager

open FileTree (listed)

variable {m : Manager σ η} {tree : FileTree} {directory : ByteArray} {state : σ}

theorem outcome_loadDefaults_of_fault {fault : PathFault}
    (h : tree.regularFiles directory = .error fault) (m : Manager σ η) (state : σ) :
    (m.loadDefaults tree directory).outcome state = (.error (.io fault.message), state) := by
  rw [loadDefaults, h]
  rfl

theorem outcome_loadDefaults_of_refusal {files : List FileTree.Listed} {failure : Failure}
    {left : σ} (hfiles : tree.regularFiles directory = .ok files)
    (hcheckout : m.provider.checkout.outcome state = (.error failure, left)) :
    (m.loadDefaults tree directory).outcome state = (.error failure, left) := by
  rw [loadDefaults, hfiles]
  exact StoreProvider.outcome_withStore_of_error hcheckout _

/-- With a store taken out, the files are imported in such a course. -/
theorem loadDefaults_course {files : List FileTree.Listed} {handle : η} {taken : σ}
    (hfiles : tree.regularFiles directory = .ok files)
    (hcheckout : m.provider.checkout.outcome state = (.ok handle, taken)) :
    ∃ result left calls,
      (m.loadDefaults tree directory).outcome state = (result, left) ∧
      (m.watched.loadDefaults tree directory).outcome ⟨state, []⟩ = (result, ⟨left, calls⟩) ∧
      Import.Course m.settings {} files calls result := by
  have hwatched : m.watched.provider.checkout.outcome ⟨state, []⟩ = (.ok handle, ⟨taken, []⟩) := by
    change m.provider.checkout.unwatched.outcome ⟨state, []⟩ = _
    rw [outcome_unwatched, hcheckout]
  obtain ⟨calls, hcalls, hcourse⟩ := Import.storeFiles_course m.settings
    (m.provider.store handle) {} files ⟨taken, []⟩
  let imported := (Import.storeFiles m.settings (m.provider.store handle) {} files).outcome taken
  refine ⟨imported.1, ((m.provider.giveBack handle).run imported.2).2, calls, ?_, ?_, hcourse⟩
  · rw [loadDefaults, hfiles]
    exact StoreProvider.outcome_withStore_of_ok hcheckout _
  · have hstored : (Import.storeFiles m.settings (m.watched.provider.store handle) {}
        files).outcome ⟨taken, []⟩ = (imported.1, ⟨imported.2, calls⟩) := hcalls
    have hran := StoreProvider.outcome_withStore_of_ok hwatched
      fun store => Import.storeFiles m.settings store {} files
    rw [hstored] at hran
    rw [loadDefaults, hfiles]
    exact hran

/-- An import asks nothing of a store unless the directory can be read and a store
is there to be taken out.  Then the payloads among its files are written in the byte
order of their names, each by one call.  A call that fails because the store cannot
be reached is the last one, every payload in front of its file has had its call, and
its failure is the result.  Without such a call every payload has one, and the
report counts each file once: as stored if its call succeeds, as skipped if the call
fails or if the file is no payload. -/
theorem loadDefaults_stops_when_lost (manager : Manager σ η) (tree : FileTree)
    (directory : ByteArray) (state : σ) :
    ∃ result left calls,
      (manager.loadDefaults tree directory).outcome state = (result, left) ∧
      (manager.watched.loadDefaults tree directory).outcome ⟨state, []⟩ =
        (result, ⟨left, calls⟩) ∧
      (∀ fault, tree.regularFiles directory = .error fault →
        result = .error (.io fault.message) ∧ calls = []) ∧
      ∀ files, tree.regularFiles directory = .ok files →
        (∃ way entries, tree.locate directory = .ok way ∧
          tree.nodeAt way = .directory entries ∧ files.Perm (listed entries)) ∧
        (files.Pairwise fun a b => a.name.toList ≤ b.name.toList) ∧
        (∀ failure taken, manager.provider.checkout.outcome state = (.error failure, taken) →
          result = .error failure ∧ calls = []) ∧
        ∀ handle taken, manager.provider.checkout.outcome state = (.ok handle, taken) →
          (∀ made ∈ calls, ∀ failure, made.failure? = some failure →
            failure.isConnectivity = true →
            result = .error failure ∧ Import.EndsAt manager.settings files calls made) ∧
          (Import.Reached calls →
            result = .ok
                ⟨calls.countP fun made => made.failure?.isNone,
                  (files.countP fun file => file.payload?.isNone) +
                    calls.countP fun made => made.failure?.isSome⟩ ∧
              calls.map MadeCall.call = files.filterMap (Import.call? manager.settings)) := by
  cases hfiles : tree.regularFiles directory with
  | error fault =>
      refine ⟨_, _, [], outcome_loadDefaults_of_fault hfiles manager state,
        outcome_loadDefaults_of_fault hfiles manager.watched ⟨state, []⟩, ?_, nofun⟩
      rintro _ ⟨⟩
      exact ⟨rfl, rfl⟩
  | ok files =>
      obtain ⟨hdirectory, hsorted⟩ := FileTree.regularFiles_ok hfiles
      rcases hcheckout : manager.provider.checkout.outcome state with ⟨failure | handle, taken⟩
      · have hwatched : manager.watched.provider.checkout.outcome ⟨state, []⟩ =
            (.error failure, ⟨taken, []⟩) := by
          change manager.provider.checkout.unwatched.outcome ⟨state, []⟩ = _
          rw [outcome_unwatched, hcheckout]
        refine ⟨_, _, [], outcome_loadDefaults_of_refusal hfiles hcheckout,
          outcome_loadDefaults_of_refusal hfiles hwatched, nofun, ?_⟩
        rintro _ ⟨⟩
        refine ⟨hdirectory, hsorted, ?_, nofun⟩
        rintro _ _ ⟨⟩
        exact ⟨rfl, rfl⟩
      · obtain ⟨result, left, calls, hran, hcalls, hcourse⟩ :=
          loadDefaults_course hfiles hcheckout
        refine ⟨result, left, calls, hran, hcalls, nofun, ?_⟩
        rintro _ ⟨⟩
        refine ⟨hdirectory, hsorted, nofun, ?_⟩
        rintro _ _ ⟨⟩
        have hlost : ∀ made ∈ calls, ∀ failure, made.failure? = some failure →
            failure.isConnectivity = true →
            result = .error failure ∧ Import.EndsAt manager.settings files calls made :=
          fun _ hmade _ hfailure hlost => hcourse.of_lost hmade hfailure hlost
        refine ⟨hlost, fun hreached => ?_⟩
        obtain ⟨hresult, hmade⟩ := hcourse.of_reached hreached
        refine ⟨?_, hmade⟩
        rw [hresult]
        simp only [Nat.zero_add]

/-- A store in memory that takes no list, and that is lost when it is given a hash. -/
def brittleStore : KeyStore MemoryStore :=
  { MemoryStore.store with
    setHash := fun _ _ => throw (.poolExhausted 3)
    setList := fun key _ => throw (MemoryStore.wrongKind key .string .list) }

/-- A file that is no payload, one that cannot be read, payloads of each kind, and a
message behind them. -/
def brittleEntries : List (ByteArray × FileNode) :=
  [("broken".toUTF8, .file "hello".toUTF8), ("locked".toUTF8, .locked motdPayload),
    ("motd".toUTF8, .file motdPayload),
    ("routes".toUTF8, .file "\x7b\"type\":\"list\",\"data\":[\"a\"]\x7d".toUTF8),
    ("servers".toUTF8, .file "\x7b\"type\":\"hash\",\"data\":\x7b\x7d\x7d".toUTF8),
    ("welcome".toUTF8, .file motdPayload)]

/-- The list is refused, the hash is lost, and the message behind it is not written. -/
theorem loadDefaults_stops_when_lost_brittle :
    ∃ left calls,
      (loadDefaults ⟨{}, .always brittleStore⟩ ⟨.directory brittleEntries, []⟩
        "/".toUTF8).outcome {} = (.error (.poolExhausted 3), left) ∧
      ((watched ⟨{}, .always brittleStore⟩).loadDefaults ⟨.directory brittleEntries, []⟩
        "/".toUTF8).outcome ⟨{}, []⟩ = (.error (.poolExhausted 3), ⟨left, calls⟩) ∧
      calls.map MadeCall.call =
        [.setScalar "cfg:motd" "hello", .setList "cfg:routes" ["a"],
          .setHash "cfg:servers" NameMap.empty] := by
  have hfiles : FileTree.regularFiles ⟨.directory brittleEntries, []⟩ "/".toUTF8 =
      .ok (listed brittleEntries) := by
    rw [FileTree.regularFiles_eq (FileTree.locate_slash rfl) rfl,
      List.mergeSort_of_pairwise (by decide +kernel)]
  obtain ⟨result, left, calls, hran, hcalls, -, htaken⟩ :=
    loadDefaults_stops_when_lost ⟨{}, .always brittleStore⟩ ⟨.directory brittleEntries, []⟩
      "/".toUTF8 {}
  obtain ⟨-, -, -, hlost⟩ := htaken _ hfiles
  have hmade : calls =
      [⟨.setScalar "cfg:motd" "hello", none⟩,
        ⟨.setList "cfg:routes" ["a"], some (MemoryStore.wrongKind "cfg:routes" .string .list)⟩,
        ⟨.setHash "cfg:servers" NameMap.empty, some (.poolExhausted 3)⟩] := by
    have hrun := congrArg (fun outcome => outcome.2.calls) hcalls
    simp only [loadDefaults, hfiles] at hrun
    rw [← hrun]
    decide +kernel
  obtain ⟨hresult, -⟩ := (hlost () {} rfl).1 _
    (hmade ▸ List.mem_cons_of_mem _ (List.mem_cons_of_mem _ List.mem_cons_self))
    (.poolExhausted 3) rfl rfl
  subst hresult
  refine ⟨left, calls, hran, hcalls, ?_⟩
  rw [hmade]
  rfl

end Manager

end LayeredConfig
