/-
A store in memory as a map of typed values.  What its port offers is either a read
or a write, and the store can be marked unavailable in between.  An operation that
fails leaves every entry as it is, a write that succeeds changes the entry of its
own key, and what is under a key after a run follows from the writes on that key
that were made while the store was available.
-/
import LayeredConfig.Proofs.Acceptance
import LayeredConfig.Proofs.MemoryReads

namespace LayeredConfig

open LayeredConfig.Action

/-- What can be read through a store's port. -/
inductive Read where
  | probeKind (key : String)
  | hasKey (key : String)
  | getScalar (key : String)
  | getHash (key : String)
  | getHashField (key field : String)
  | hasHashField (key field : String)
  | getList (key : String)
  | listKeys (filter : String)
deriving DecidableEq

/-- The key that is read; to list the keys reads none of them. -/
def Read.key? : Read → Option String
  | probeKind key => key
  | hasKey key => key
  | getScalar key => key
  | getHash key => key
  | getHashField key _ => key
  | hasHashField key _ => key
  | getList key => key
  | listKeys _ => none

namespace StoredValue

variable {value : StoredValue}

theorem exists_hash (h : value.kind = .hash) : ∃ fields, value = .hash fields := by
  cases value with
  | hash fields => exact ⟨fields, rfl⟩
  | _ => cases h

theorem exists_list (h : value.kind = .list) : ∃ entries, value = .list entries := by
  cases value with
  | list entries => exact ⟨entries, rfl⟩
  | _ => cases h

end StoredValue

/-- What a store's port offers. -/
inductive Operation where
  | read (read : Read)
  | write (write : Write)
deriving DecidableEq

namespace Action

variable {σ α : Type}

/-- Do something, whatever the answer is. -/
def forget (action : Action σ α) : Action σ Unit := do
  let _ ← action
  return ()

theorem outcome_forget_snd (action : Action σ α) (state : σ) :
    (action.forget.outcome state).2 = (action.outcome state).2 := by
  rw [forget, outcome_bind_pure]

theorem outcome_forget_of_error {action : Action σ α} {state left : σ} {failure : Failure}
    (h : action.outcome state = (.error failure, left)) :
    action.forget.outcome state = (.error failure, left) :=
  outcome_bind_of_error h _

end Action

namespace KeyStore

variable {σ : Type}

def read (store : KeyStore σ) : Read → Action σ Unit
  | .probeKind key => (store.probeKind key).forget
  | .hasKey key => (store.hasKey key).forget
  | .getScalar key => (store.getScalar key).forget
  | .getHash key => (store.getHash key).forget
  | .getHashField key field => (store.getHashField key field).forget
  | .hasHashField key field => (store.hasHashField key field).forget
  | .getList key => (store.getList key).forget
  | .listKeys filter => (store.listKeys filter).forget

def operate (store : KeyStore σ) : Operation → Action σ Unit
  | .read read => store.read read
  | .write write => store.write write

end KeyStore

namespace Write

/-- The value that a write puts in place of whatever is there. -/
def given? : Write → Option StoredValue
  | setScalar _ value => some (.string value)
  | setHash _ fields => some (.hash fields)
  | setList _ entries => some (.list entries)
  | storeValue _ value => some value
  | _ => none

/-- The empty collection that a write into a collection makes if the key is free. -/
def made? : Write → Option StoredValue
  | setHashField _ _ _ => some (.hash NameMap.empty)
  | appendList _ _ => some (.list [])
  | _ => none

variable {w : Write} {value made : StoredValue} {value? : Option StoredValue}

theorem fits_of_given (h : w.given? = some value) : w.fits value? = true := by
  cases w with
  | setHashField => cases h
  | appendList => cases h
  | _ => rfl

theorem result_of_given (h : w.given? = some value) : w.result value? = some value := by
  cases w with
  | setHashField => cases h
  | appendList => cases h
  | deleteKey => cases h
  | _ => exact h

/-- A write into a collection fits what is of the kind of the collection. -/
theorem fits_iff_of_made (h : w.made? = some made) :
    w.fits value? = true ↔ (value?.getD made).kind = made.kind := by
  cases value? with
  | none => exact ⟨fun _ => rfl, fun _ => w.fits_none⟩
  | some stored =>
      cases w with
      | setHashField => cases h; exact beq_iff_eq
      | appendList => cases h; exact beq_iff_eq
      | _ => cases h

theorem result_getD_made (h : w.made? = some made) :
    w.result (some (value?.getD made)) = w.result value? := by
  cases value? with
  | some stored => rfl
  | none =>
      cases w with
      | setHashField => cases h; rfl
      | appendList => cases h; rfl
      | _ => cases h

/-- What is under a key after writes, of which those on other keys do not count. -/
def history (key : String) (writes : List Write) (value? : Option StoredValue) :
    Option StoredValue :=
  (writes.filter fun w => key == w.key).foldl (fun value? w => w.result value?) value?

theorem history_cons (w : Write) (key : String) (rest : List Write)
    (value? : Option StoredValue) :
    history key (w :: rest) value? =
      history key rest (if key = w.key then w.result value? else value?) := by
  by_cases hkey : key = w.key
  · have hown : (key == w.key) = true := beq_iff_eq.2 hkey
    simp only [history, if_pos hkey, List.filter_cons, hown, if_true, List.foldl_cons]
  · have hother : (key == w.key) = false := beq_eq_false_iff_ne.2 hkey
    simp only [history, if_neg hkey, List.filter_cons, hother, Bool.false_eq_true, if_false]

end Write

/-- What becomes of an operation on a store in memory that is marked unavailable.  A
filter is read before the store is looked at. -/
def Operation.failureWhenMarked : Operation → Failure
  | read (.listKeys filter) =>
      if (Glob.parse? filter).isNone then MemoryStore.malformedFilter filter
      else MemoryStore.markedUnavailable
  | _ => MemoryStore.markedUnavailable

namespace MemoryStore

/-- Everything that can happen to a store in memory. -/
inductive Event where
  | operation (operation : Operation)
  | mark (unavailable : Bool)
deriving DecidableEq

def Event.run : Event → Action MemoryStore Unit
  | operation op => store.operate op
  | mark unavailable => modify fun m => { m with unavailable }

/-- The store after events, of which those that fail do not keep the others from
happening. -/
def afterEvents (events : List Event) (m : MemoryStore) : MemoryStore :=
  events.foldl (fun m event => (event.run.outcome m).2) m

/-- The writes among events that are made while the store is available. -/
def writesMade : (unavailable : Bool) → List Event → List Write
  | _, [] => []
  | _, .mark unavailable :: rest => writesMade unavailable rest
  | unavailable, .operation (.read _) :: rest => writesMade unavailable rest
  | true, .operation (.write _) :: rest => writesMade true rest
  | false, .operation (.write w) :: rest => w :: writesMade false rest

variable {m : MemoryStore} {w : Write} {α : Type}

section Unavailable

theorem outcome_access_bind_unavailable (h : m.unavailable = true)
    (next : MemoryStore → Action MemoryStore α) :
    (access >>= next).outcome m = (.error markedUnavailable, m) :=
  outcome_bind_of_error (outcome_access_unavailable h) next

theorem outcome_fetch_bind_unavailable (h : m.unavailable = true) (key : String)
    (next : Option StoredValue → Action MemoryStore α) :
    (fetch key >>= next).outcome m = (.error markedUnavailable, m) :=
  outcome_bind_of_error (outcome_access_bind_unavailable h _) next

theorem outcome_listKeys_of_malformed {filter : String} (h : Glob.parse? filter = none)
    (m : MemoryStore) : (listKeys filter).outcome m = (.error (malformedFilter filter), m) := by
  have hstated : filter.isEmpty = false := by
    cases hempty : filter.isEmpty with
    | false => rfl
    | true =>
        obtain rfl := String.isEmpty_iff.1 hempty
        have hread : Glob.parse? "" ≠ none := by decide +kernel
        exact absurd h hread
  rw [listKeys, hstated]
  simp only [Bool.false_eq_true, if_false, h]
  rfl

theorem outcome_listKeys_unavailable (h : m.unavailable = true) {filter : String} {glob : Glob}
    (hglob : Glob.parse? filter = some glob) :
    (listKeys filter).outcome m = (.error markedUnavailable, m) := by
  cases hempty : filter.isEmpty with
  | true =>
      have hread : Glob.parse? "*" ≠ none := by decide +kernel
      obtain ⟨star, hstar⟩ := Option.ne_none_iff_exists'.1 hread
      rw [listKeys, hempty]
      simp only [if_true, hstar]
      exact outcome_access_bind_unavailable h _
  | false =>
      rw [listKeys, hempty]
      simp only [Bool.false_eq_true, if_false, hglob]
      exact outcome_access_bind_unavailable h _

/-- Nothing works on a store that is marked unavailable, and nothing changes it. -/
theorem outcome_operate_unavailable (h : m.unavailable = true) (op : Operation) :
    (store.operate op).outcome m = (.error op.failureWhenMarked, m) := by
  cases op with
  | write w =>
      cases w with
      | storeValue key value => cases value <;> exact outcome_access_bind_unavailable h _
      | _ => exact outcome_access_bind_unavailable h _
  | read r =>
      rw [KeyStore.operate]
      cases r with
      | getScalar => exact outcome_forget_of_error (outcome_fetch_bind_unavailable h _ _)
      | getHash => exact outcome_forget_of_error (outcome_fetch_bind_unavailable h _ _)
      | getHashField => exact outcome_forget_of_error (outcome_fetch_bind_unavailable h _ _)
      | getList => exact outcome_forget_of_error (outcome_fetch_bind_unavailable h _ _)
      | probeKind => exact outcome_forget_of_error (outcome_access_bind_unavailable h _)
      | hasKey => exact outcome_forget_of_error (outcome_access_bind_unavailable h _)
      | hasHashField => exact outcome_forget_of_error (outcome_access_bind_unavailable h _)
      | listKeys filter =>
          apply outcome_forget_of_error
          change (listKeys filter).outcome m = _
          rw [Operation.failureWhenMarked]
          cases hglob : Glob.parse? filter with
          | none => exact outcome_listKeys_of_malformed hglob m
          | some glob => exact outcome_listKeys_unavailable h hglob

end Unavailable

section Reads

theorem outcome_listKeys_snd (filter : String) (m : MemoryStore) :
    ((listKeys filter).outcome m).2 = m := by
  rw [listKeys]
  cases Glob.parse? (if filter.isEmpty then "*" else filter) with
  | none => rfl
  | some glob =>
      by_cases havailable : m.unavailable = true
      · exact congrArg Prod.snd (outcome_access_bind_unavailable havailable _)
      · exact congrArg Prod.snd (outcome_bind_of_ok (outcome_access (Bool.eq_false_iff.2
          havailable)) _)

theorem Reads.hasKey (name : String) : Reads name (store.hasKey name) :=
  Reads.access_bind OnlyFetched.refl nofun

/-- A read at most counts a fetch of its own key. -/
theorem moves_read (r : Read) :
    Moves (OnlyFetched fun name => r.key? = some name) (store.read r) := by
  have hreads : ∀ {α : Type} {name : String} {action : Action MemoryStore α},
      Reads name action → r.key? = some name →
      Moves (OnlyFetched fun name => r.key? = some name) action.forget := by
    intro α name action hreads hname m
    rw [outcome_forget_snd]
    exact (hreads.moves m).of_name hname
  cases r with
  | probeKind key => exact hreads (.probeKind key) rfl
  | hasKey key => exact hreads (.hasKey key) rfl
  | getScalar key => exact hreads (.getScalar key) rfl
  | getHash key => exact hreads (.getHash key) rfl
  | getHashField key field => exact hreads (.getHashField key field) rfl
  | hasHashField key field => exact hreads (.hasHashField key field) rfl
  | getList key => exact hreads (.getList key) rfl
  | listKeys filter =>
      intro m
      change OnlyFetched _ m ((listKeys filter).forget.outcome m).2
      rw [outcome_forget_snd, outcome_listKeys_snd]
      exact OnlyFetched.refl m

end Reads

section Writes

variable {left : MemoryStore} {made : StoredValue}

theorem outcome_write_of_fits (h : m.unavailable = false)
    (hfits : w.fits (m.entries.get? w.key) = true) :
    (store.write w).outcome m =
      (.ok (), { m with entries := m.entries.assign w.key (w.result (m.entries.get? w.key)) }) := by
  have hok := isOk_write h w
  rw [hfits] at hok
  rw [← after_write h w]
  rcases hout : (store.write w).outcome m with ⟨failure | _, left⟩
  · rw [hout] at hok
    cases hok
  · rfl

/-- A write that does not fit goes into a collection and finds a value of another
kind.  It fails, and nothing at all changes. -/
theorem outcome_write_of_misfit (h : m.unavailable = false)
    (hfits : w.fits (m.entries.get? w.key) = false) :
    ∃ made stored, w.made? = some made ∧ m.entries.get? w.key = some stored ∧
      stored.kind ≠ made.kind ∧
      (store.write w).outcome m = (.error (wrongKind w.key made.kind stored.kind), m) := by
  cases hstored : m.entries.get? w.key with
  | none =>
      rw [hstored, Write.fits_none] at hfits
      cases hfits
  | some stored =>
      rw [hstored] at hfits
      cases w with
      | setHashField key field value =>
          refine ⟨.hash NameMap.empty, stored, rfl, rfl, ne_of_beq_false hfits, ?_⟩
          change (setHashField key field value).outcome m = _
          rw [setHashField, outcome_bind_of_ok (outcome_access h),
            show m.entries.get? key = some stored from hstored]
          cases stored with
          | hash => cases hfits
          | _ => rfl
      | appendList key value =>
          refine ⟨.list [], stored, rfl, rfl, ne_of_beq_false hfits, ?_⟩
          change (appendList key value).outcome m = _
          rw [appendList, outcome_bind_of_ok (outcome_access h),
            show m.entries.get? key = some stored from hstored]
          cases stored with
          | list => cases hfits
          | _ => rfl
      | _ => cases hfits

theorem available_of_written (h : (store.write w).outcome m = (.ok (), left)) :
    m.unavailable = false := by
  cases hmarked : m.unavailable with
  | false => rfl
  | true =>
      have hlost := outcome_operate_unavailable hmarked (.write w)
      rw [KeyStore.operate, h] at hlost
      cases hlost

/-- A write that succeeds leaves under its key what it results in. -/
theorem get?_of_written (h : (store.write w).outcome m = (.ok (), left)) (key : String) :
    left.entries.get? key =
      if key = w.key then w.result (m.entries.get? w.key) else m.entries.get? key := by
  have hleft := after_write (available_of_written h) w
  rw [h] at hleft
  obtain rfl := hleft
  exact m.entries.get?_assign w.key key _

/-- A write into a collection fails just on a value of another kind. -/
theorem refused_iff (h : m.unavailable = false) (hmade : w.made? = some made)
    (failure : Failure) :
    ((store.write w).outcome m).1 = .error failure ↔
      ∃ stored, m.entries.get? w.key = some stored ∧ stored.kind ≠ made.kind ∧
        failure = wrongKind w.key made.kind stored.kind := by
  cases hfits : w.fits (m.entries.get? w.key) with
  | true =>
      rw [outcome_write_of_fits h hfits]
      refine ⟨nofun, ?_⟩
      rintro ⟨stored, hstored, hkind, _⟩
      rw [Write.fits_iff_of_made hmade, hstored] at hfits
      exact absurd hfits hkind
  | false =>
      obtain ⟨other, stored, hother, hstored, hkind, hrefused⟩ := outcome_write_of_misfit h hfits
      obtain rfl := Option.some.inj (hmade.symm.trans hother)
      rw [hrefused, hstored]
      constructor
      · intro hfailed
        exact ⟨stored, rfl, hkind, (Except.error.inj hfailed).symm⟩
      · rintro ⟨_, ⟨⟩, _, rfl⟩
        rfl

/-- A write into a collection changes the collection that is there, or the one that
it makes. -/
theorem written_into (hmade : w.made? = some made)
    (h : (store.write w).outcome m = (.ok (), left)) :
    ((m.entries.get? w.key).getD made).kind = made.kind ∧
      left.entries.get? w.key = w.result (some ((m.entries.get? w.key).getD made)) := by
  constructor
  · by_contra hkind
    have hmisfit := Bool.eq_false_iff.2 (mt (Write.fits_iff_of_made hmade).1 hkind)
    obtain ⟨_, _, _, _, _, hrefused⟩ := outcome_write_of_misfit (available_of_written h) hmisfit
    rw [h] at hrefused
    cases hrefused
  · rw [get?_of_written h, if_pos rfl, Write.result_getD_made hmade]

end Writes

/-- What every operation does to a store in memory, by what the store holds. -/
structure ActsTyped (m : MemoryStore) : Prop where
  failed : ∀ op failure left, (store.operate op).outcome m = (.error failure, left) →
    left.entries = m.entries
  read : ∀ r, OnlyFetched (fun name => r.key? = some name) m ((store.read r).outcome m).2
  written : ∀ w left, (store.write w).outcome m = (.ok (), left) →
    ∀ key, key ≠ w.key → left.entries.get? key = m.entries.get? key
  given : m.unavailable = false → ∀ w value, w.given? = some value →
    ∃ left, (store.write w).outcome m = (.ok (), left) ∧ left.entries.get? w.key = some value
  field_refused : m.unavailable = false → ∀ key field value failure,
    ((store.setHashField key field value).outcome m).1 = .error failure ↔
      ∃ stored, m.entries.get? key = some stored ∧ stored.kind ≠ .hash ∧
        failure = wrongKind key .hash stored.kind
  field_set : ∀ key field value left,
    (store.setHashField key field value).outcome m = (.ok (), left) →
    ∃ before after, (m.entries.get? key).getD (.hash NameMap.empty) = .hash before ∧
      left.entries.get? key = some (.hash after) ∧ after.get? field = some value ∧
      ∀ other, other ≠ field → after.get? other = before.get? other
  entry_refused : m.unavailable = false → ∀ key value failure,
    ((store.appendList key value).outcome m).1 = .error failure ↔
      ∃ stored, m.entries.get? key = some stored ∧ stored.kind ≠ .list ∧
        failure = wrongKind key .list stored.kind
  entry_appended : ∀ key value left,
    (store.appendList key value).outcome m = (.ok (), left) →
    ∃ before, (m.entries.get? key).getD (.list []) = .list before ∧
      left.entries.get? key = some (.list (before ++ [value]))
  unavailable : m.unavailable = true → ∀ op,
    (store.operate op).outcome m = (.error op.failureWhenMarked, m)

theorem entries_of_failed {op : Operation} {failure : Failure} {left : MemoryStore}
    (h : (store.operate op).outcome m = (.error failure, left)) : left.entries = m.entries := by
  cases hmarked : m.unavailable with
  | true =>
      rw [outcome_operate_unavailable hmarked] at h
      cases h
      rfl
  | false =>
      cases op with
      | read r =>
          have hread := (moves_read r m).entries
          rw [KeyStore.operate] at h
          rwa [h] at hread
      | write w =>
          rw [KeyStore.operate] at h
          cases hfits : w.fits (m.entries.get? w.key) with
          | true =>
              rw [outcome_write_of_fits hmarked hfits] at h
              cases h
          | false =>
              obtain ⟨_, _, _, _, _, hrefused⟩ := outcome_write_of_misfit hmarked hfits
              rw [hrefused] at h
              cases h
              rfl

/-- Every store in memory acts so, whatever it holds. -/
theorem actsTyped (m : MemoryStore) : m.ActsTyped where
  failed _ _ _ := entries_of_failed
  read r := moves_read r m
  written w left h key hkey := by
    rw [get?_of_written h, if_neg hkey]
  given h w value hgiven := by
    refine ⟨_, outcome_write_of_fits h (Write.fits_of_given hgiven), ?_⟩
    rw [NameMap.get?_assign, if_pos rfl, Write.result_of_given hgiven]
  field_refused h key field value := refused_iff (w := .setHashField key field value) h rfl
  field_set key field value left h := by
    obtain ⟨hkind, hleft⟩ := written_into (w := .setHashField key field value) rfl h
    obtain ⟨before, hbefore⟩ := StoredValue.exists_hash hkind
    rw [hbefore] at hleft
    exact ⟨before, before.insert field value, hbefore, hleft, before.get?_insert_self field value,
      fun _ hother => before.get?_insert_of_ne hother value⟩
  entry_refused h key value := refused_iff (w := .appendList key value) h rfl
  entry_appended key value left h := by
    obtain ⟨hkind, hleft⟩ := written_into (w := .appendList key value) rfl h
    obtain ⟨before, hbefore⟩ := StoredValue.exists_list hkind
    rw [hbefore] at hleft
    exact ⟨before, hbefore, hleft⟩
  unavailable h := outcome_operate_unavailable h

/-- What is under a key after events. -/
theorem get?_afterEvents (events : List Event) (m : MemoryStore) (key : String) :
    (afterEvents events m).entries.get? key =
      Write.history key (writesMade m.unavailable events) (m.entries.get? key) := by
  induction events generalizing m with
  | nil => rfl
  | cons event rest ih =>
      rw [afterEvents, List.foldl_cons, ← afterEvents, ih]
      cases event with
      | mark unavailable => rfl
      | operation op =>
          cases op with
          | read r =>
              have hread := moves_read r m
              change Write.history key (writesMade ((store.read r).outcome m).2.unavailable rest)
                (((store.read r).outcome m).2.entries.get? key) = _
              rw [hread.unavailable, hread.entries]
              rfl
          | write w =>
              change Write.history key (writesMade ((store.write w).outcome m).2.unavailable rest)
                (((store.write w).outcome m).2.entries.get? key) = _
              cases hmarked : m.unavailable with
              | true =>
                  have hlost := outcome_operate_unavailable hmarked (.write w)
                  rw [KeyStore.operate] at hlost
                  rw [hlost, hmarked]
                  rfl
              | false =>
                  rw [after_write hmarked, writesMade, Write.history_cons, NameMap.get?_assign]
                  by_cases hkey : key = w.key
                  · subst hkey
                    rw [hmarked]
                  · rw [if_neg hkey, if_neg hkey, hmarked]

/-- A store in memory is a map of typed values.  After every run of operations that
fail or succeed, between which it is marked unavailable or available again, a key
holds what the writes on it that were made while the store was available result in,
one after another.  In every state that is reached so, an operation that fails
leaves every entry as it was, and so does a read; a write that succeeds changes the
entry of its own key only.  A value that is stored is there afterwards, whatever was
there.  To set a field fails just on what is no hash, and otherwise changes that
field; to append fails just on what is no list, and otherwise adds one entry at the
end.  While the store is unavailable every operation fails and not even a count of
fetches changes. -/
theorem afterEvents_actsTyped (events : List Event) (m : MemoryStore) :
    (afterEvents events m).ActsTyped ∧
    ∀ key, (afterEvents events m).entries.get? key =
      Write.history key (writesMade m.unavailable events) (m.entries.get? key) :=
  ⟨actsTyped _, get?_afterEvents events m⟩

-- A field of a list is refused, and what is stored while the store is away is lost.
example :
    (afterEvents [.operation (.write (.appendList "a" "x")),
      .operation (.write (.setHashField "a" "f" "y")), .mark true,
      .operation (.write (.setScalar "a" "z")), .operation (.read (.getList "a")), .mark false,
      .operation (.write (.appendList "a" "y"))] {}).entries =
        NameMap.ofList [("a", .list ["x", "y"])] := by decide +kernel

end MemoryStore

end LayeredConfig
