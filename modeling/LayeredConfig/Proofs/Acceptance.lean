/-
Which writes succeed.  A write that goes into a collection makes it if the key
is free, and is refused by a value of another kind; every other write succeeds.
In memory an empty collection is such a value.  On the server it is not there,
and this is the one way in which the two do not take the same writes.
-/
import LayeredConfig.Proofs.Backends

namespace LayeredConfig

open LayeredConfig.Action
open LayeredConfig.Server (Command Reply)

/-- Can a write go where a value is?  A write that puts something in place of
it always can. -/
def Write.fits : Write → Option StoredValue → Bool
  | .setHashField _ _ _, value? => value?.all fun value => value.kind == .hash
  | .appendList _ _, value? => value?.all fun value => value.kind == .list
  | _, _ => true

namespace Write

variable {w : Write} {entries : NameMap StoredValue}

theorem fits_none (w : Write) : w.fits none = true := by
  cases w <;> rfl

/-- A write crosses just if what it does not fit has nothing in it. -/
theorem crosses_iff :
    w.crosses entries = true ↔ ∃ value, entries.get? w.key = some value ∧
      value.hasContent = false ∧ w.fits (some value) = false := by
  cases w with
  | setHashField key field text =>
      rw [crosses, decide_eq_true_iff]
      constructor
      · intro hstored
        exact ⟨.list [], hstored, rfl, rfl⟩
      · rintro ⟨value, hstored, hcontent, hfits⟩
        rcases StoredValue.hasContent_eq_false_iff.1 hcontent with rfl | rfl
        · cases hfits
        · exact hstored
  | appendList key text =>
      rw [crosses, decide_eq_true_iff]
      constructor
      · intro hstored
        exact ⟨.hash NameMap.empty, hstored, rfl, rfl⟩
      · rintro ⟨value, hstored, hcontent, hfits⟩
        rcases StoredValue.hasContent_eq_false_iff.1 hcontent with rfl | rfl
        · exact hstored
        · cases hfits
  | _ => exact ⟨nofun, fun ⟨_, _, _, hfits⟩ => nomatch hfits⟩

theorem fits_of_crosses (h : w.crosses entries = true) :
    w.fits (entries.get? w.key) = false := by
  obtain ⟨value, hstored, _, hfits⟩ := crosses_iff.1 h
  rw [hstored, hfits]

/-- Where only what has something in it is kept, the writes that cross fit too. -/
theorem fits_keep (w : Write) (entries : NameMap StoredValue) :
    w.fits ((entries.keep StoredValue.hasContent).get? w.key) =
      (w.fits (entries.get? w.key) || w.crosses entries) := by
  rw [NameMap.get?_keep]
  cases hstored : entries.get? w.key with
  | none => rw [Option.filter_none, fits_none, Bool.true_or]
  | some value =>
      cases hcontent : value.hasContent with
      | true =>
          have hnever : ¬ w.crosses entries = true := by
            rw [crosses_iff, hstored]
            rintro ⟨_, ⟨⟩, hempty, _⟩
            rw [hcontent] at hempty
            cases hempty
          rw [Option.filter_some_pos hcontent, Bool.eq_false_iff.2 hnever, Bool.or_false]
      | false =>
          rw [Option.filter_some_neg (by simp [hcontent]), fits_none]
          cases hfits : w.fits (some value) with
          | true => rfl
          | false => rw [crosses_iff.2 ⟨value, hstored, hcontent, hfits⟩, Bool.or_true]

end Write

/-- Which of some writes succeed, tried one after another. -/
def KeyStore.accepted {σ : Type} (store : KeyStore σ) : List Write → σ → List Bool
  | [], _ => []
  | w :: rest, state =>
      ((store.write w).outcome state).1.isOk ::
        store.accepted rest ((store.write w).outcome state).2

namespace MemoryStore

variable {m : MemoryStore}

theorem isOk_set (h : m.unavailable = false) (key : String) (value : StoredValue) :
    ((write key value).outcome m).1.isOk = true := by
  rw [outcome_set h]
  rfl

theorem isOk_setHashField (h : m.unavailable = false) (key field value : String) :
    ((setHashField key field value).outcome m).1.isOk =
      (Write.setHashField key field value).fits (m.entries.get? key) := by
  rw [setHashField, outcome_bind_of_ok (outcome_access h)]
  cases m.entries.get? key with
  | none => exact isOk_set h key _
  | some stored =>
      cases stored with
      | hash fields => exact isOk_set h key _
      | string text => rfl
      | list entries => rfl

theorem isOk_appendList (h : m.unavailable = false) (key value : String) :
    ((appendList key value).outcome m).1.isOk =
      (Write.appendList key value).fits (m.entries.get? key) := by
  rw [appendList, outcome_bind_of_ok (outcome_access h)]
  cases m.entries.get? key with
  | none => exact isOk_set h key _
  | some stored =>
      cases stored with
      | list entries => exact isOk_set h key _
      | string text => rfl
      | hash fields => rfl

/-- A store in memory refuses a write just if it does not fit what is there. -/
theorem isOk_write (h : m.unavailable = false) (w : Write) :
    ((store.write w).outcome m).1.isOk = w.fits (m.entries.get? w.key) := by
  cases w with
  | setScalar key value => exact isOk_set h key _
  | setHash key fields => exact isOk_set h key _
  | setHashField key field value => exact isOk_setHashField h key field value
  | setList key entries => exact isOk_set h key _
  | appendList key value => exact isOk_appendList h key value
  | storeValue key value => cases value <;> exact isOk_set h key _
  | deleteKey key =>
      change ((deleteKey key).outcome m).1.isOk = true
      rw [deleteKey, outcome_bind_of_ok (outcome_access h)]
      rfl

end MemoryStore

namespace Connection

variable {connection : Connection} {data : Server.Data} {state : PoolState}
  {entries : NameMap StoredValue}

theorem Serving.isOk_transact (h : connection.Serving data state) (word key : String)
    (commands : List Command) :
    ((connection.transact word key commands).outcome state).1.isOk = true := by
  rw [transact, outcome_bind_of_ok (h.outcome_reach word key)]
  rfl

theorem Serving.isOk_ask (h : connection.Serving data state) {α : Type} (word key : String)
    (command : Command) (read? : Reply → Option α) :
    ((connection.ask word key command read?).outcome state).1.isOk =
      (read? (data.execute command).1).isSome := by
  rw [h.outcome_ask]
  cases read? (data.execute command).1 <;> rfl

section Writes

variable (h : connection.Serving data state) (hholds : data.Holds entries)
include h hholds

theorem Serving.isOk_setHashField (key field value : String) :
    ((connection.setHashField key field value).outcome state).1.isOk =
      (Write.setHashField key field value).fits (entries.get? key) := by
  obtain ⟨left, hleft, hprobe⟩ := gives_probeKind hholds key state h
  have hat : data.get? key = (entries.get? key).map StoredValue.onServer := hholds key
  have hset := hleft.isOk_ask "HSET" key (.setFields key [(field, value)]) readDone?
  rw [Server.Data.execute, Server.Data.hashAt?, hat] at hset
  rw [setHashField, outcome_bind_of_ok hprobe]
  cases hstored : entries.get? key with
  | none =>
      rw [hstored] at hset
      exact hset
  | some stored =>
      rw [hstored] at hset
      cases stored with
      | hash fields => exact hset
      | string text => rfl
      | list entries => rfl

theorem Serving.isOk_appendList (key value : String) :
    ((connection.store.appendList key value).outcome state).1.isOk =
      (Write.appendList key value).fits (entries.get? key) := by
  have hat : data.get? key = (entries.get? key).map StoredValue.onServer := hholds key
  have hset := h.isOk_ask "RPUSH" key (.append key [value]) readDone?
  rw [Server.Data.execute, Server.Data.listAt?, hat] at hset
  refine hset.trans ?_
  cases entries.get? key with
  | none => rfl
  | some stored => cases stored <;> rfl

/-- A server refuses a write just if it does not fit what the server holds. -/
theorem Serving.isOk_write (w : Write) :
    ((connection.store.write w).outcome state).1.isOk = w.fits (entries.get? w.key) := by
  cases w with
  | setScalar key value => exact h.isOk_ask "SET" key (.set key value) readDone?
  | setHash key fields => exact h.isOk_transact "HSET" key _
  | setHashField key field value => exact h.isOk_setHashField hholds key field value
  | setList key entries => exact h.isOk_transact "RPUSH" key _
  | appendList key value => exact h.isOk_appendList hholds key value
  | storeValue key value =>
      cases value with
      | string text => exact h.isOk_ask "SET" key (.set key text) readDone?
      | hash fields => exact h.isOk_transact "HSET" key _
      | list entries => exact h.isOk_transact "RPUSH" key _
  | deleteKey key => exact h.isOk_ask "DEL" key (.delete key) readDone?

end Writes

/-- What becomes of a write on a store in memory and on a server that holds the
same: it is taken if it fits, and by the server also if it crosses. -/
structure Takes (connection : Connection) (m : MemoryStore) (state : PoolState) (w : Write) :
    Prop where
  memory : ((MemoryStore.store.write w).outcome m).1.isOk = w.fits (m.entries.get? w.key)
  server : ((connection.store.write w).outcome state).1.isOk =
    (w.fits (m.entries.get? w.key) || w.crosses m.entries)
  crossed : w.crosses m.entries = true → w.fits (m.entries.get? w.key) = false
  stored : ((MemoryStore.store.write w).outcome m).2.entries.get? w.key =
    w.result (m.entries.get? w.key)
  mirrored : w.crosses m.entries = false →
    connection.Mirrors ((MemoryStore.store.write w).outcome m).2
      ((connection.store.write w).outcome state).2

theorem Mirrors.takes {m : MemoryStore} (h : connection.Mirrors m state) (w : Write) :
    connection.Takes m state w where
  memory := MemoryStore.isOk_write h.available w
  server := (h.serving.isOk_write h.holds w).trans (w.fits_keep m.entries)
  crossed := Write.fits_of_crosses
  stored := by rw [MemoryStore.after_write h.available, NameMap.get?_assign, if_pos rfl]
  mirrored := h.after_write

/-- The first write that crosses tells the two sides apart. -/
theorem Mirrors.accepted_eq_iff {m : MemoryStore} (h : connection.Mirrors m state)
    (writes : List Write) :
    MemoryStore.store.accepted writes m = connection.store.accepted writes state ↔
      m.keepsApart writes = true := by
  induction writes generalizing m state with
  | nil => exact ⟨fun _ => rfl, fun _ => rfl⟩
  | cons w rest ih =>
      have htakes := h.takes w
      rw [KeyStore.accepted, KeyStore.accepted, htakes.memory, htakes.server, List.cons_eq_cons,
        MemoryStore.keepsApart_cons]
      by_cases hcrosses : w.crosses m.entries = true
      · simp [hcrosses, htakes.crossed hcrosses]
      · have hnever := Bool.eq_false_iff.2 hcrosses
        rw [hnever, Bool.or_false, ih (htakes.mirrored hnever)]
        simp

/-- Writes that are tried one after another on an empty store in memory and
through a connection to an empty server succeed and fail alike just if none of
them goes into an empty collection of another kind, which is there in memory
and not on the server.  As long as none did, a write that goes into a
collection makes it if the key is free and fails only on a value of another
kind; the other writes succeed. -/
theorem accepted_eq_iff_keepsApart {m : MemoryStore} {start : PoolState}
    (hmemory : MemoryStore.Holding NameMap.empty m)
    (hserver : connection.Serving NameMap.empty start) (writes : List Write) :
    (MemoryStore.store.accepted writes m = connection.store.accepted writes start ↔
      m.keepsApart writes = true) ∧
    (m.keepsApart writes = true → ∀ w,
      connection.Takes (MemoryStore.store.afterWrites writes m)
        (connection.store.afterWrites writes start) w) := by
  have hmirrors := Mirrors.start hmemory hserver
  refine ⟨hmirrors.accepted_eq_iff writes, ?_⟩
  intro hwrites w
  exact (hmirrors.after_keepsApart hwrites).takes w

/-- Writes that go into empty collections of their own kind, and one that finds
a hash where it would append. -/
def ownKindWrites : List Write :=
  [.setHash "cfg:default:db" NameMap.empty, .setHashField "cfg:default:db" "host" "db1",
    .appendList "cfg:default:db" "replica", .setList "cfg:default:hosts" [],
    .appendList "cfg:default:hosts" "a"]

theorem accepted_ownKindWrites :
    MemoryStore.store.accepted ownKindWrites {} = [true, true, false, true, true] ∧
      (Connection.mk 0).store.accepted ownKindWrites freshServer =
        [true, true, false, true, true] := by
  have hmemory : MemoryStore.Holding NameMap.empty {} := ⟨rfl, rfl⟩
  have hserver : (Connection.mk 0).Serving NameMap.empty freshServer := ⟨rfl, rfl, rfl⟩
  have hapart : MemoryStore.keepsApart {} ownKindWrites = true := by decide +kernel
  have hsame := (accepted_eq_iff_keepsApart hmemory hserver ownKindWrites).1.2 hapart
  have haccepted : MemoryStore.store.accepted ownKindWrites {} =
      [true, true, false, true, true] := by decide +kernel
  exact ⟨haccepted, hsame.symm.trans haccepted⟩

/-- To append where an empty hash was put is refused in memory and not by the
server. -/
theorem accepted_append_to_empty_hash :
    MemoryStore.Holding NameMap.empty {} ∧
      (Connection.mk 0).Serving NameMap.empty freshServer ∧
      MemoryStore.store.accepted [.setHash "k" NameMap.empty, .appendList "k" "v"] {} =
        [true, false] ∧
      (Connection.mk 0).store.accepted [.setHash "k" NameMap.empty, .appendList "k" "v"]
        freshServer = [true, true] :=
  ⟨⟨rfl, rfl⟩, ⟨rfl, rfl, rfl⟩, by decide +kernel, by decide +kernel⟩

end Connection

end LayeredConfig
