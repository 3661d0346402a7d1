/-
A store in memory shows its entries as long as it is available.  Reading counts
fetches and changes nothing else, so all its states with the same entries
answer alike.
-/
import LayeredConfig.MemoryStore
import LayeredConfig.Proofs.Shows

namespace LayeredConfig

open LayeredConfig.Action

namespace MemoryStore

/-- The states in which a store in memory is available and has these entries.
Only the counts of fetches differ among them. -/
def Holding (entries : NameMap StoredValue) (m : MemoryStore) : Prop :=
  m.entries = entries ∧ m.unavailable = false

theorem outcome_access {m : MemoryStore} (h : m.unavailable = false) :
    access.outcome m = (.ok m, m) := by
  have hget : (get : Action MemoryStore MemoryStore).outcome m = (.ok m, m) := rfl
  rw [access, outcome_bind_of_ok hget, h]
  rfl

section

variable {entries : NameMap StoredValue}

/-- What only looks at the entries of an available store. -/
theorem gives_access {α : Type} {next : MemoryStore → Action MemoryStore α}
    {result : Except Failure α}
    (hnext : ∀ m, Holding entries m → ∃ left, Holding entries left ∧
      (next m).outcome m = (result, left)) :
    Gives (Holding entries) (access >>= next) result := by
  intro m hm
  obtain ⟨left, hleft, hout⟩ := hnext m hm
  exact ⟨left, hleft, by rw [outcome_bind_of_ok (outcome_access hm.2), hout]⟩

theorem gives_fetch (key : String) :
    Gives (Holding entries) (fetch key) (.ok (entries.get? key)) := by
  refine gives_access fun m hm => ?_
  refine ⟨{ m with fetches := m.fetches.insert key (m.fetchCount key + 1) }, hm, ?_⟩
  rw [← hm.1]
  rfl

/-- An available store in memory shows its entries. -/
theorem shows (v : View) : (store.withFieldOrder v.order).Shows (Holding v.entries) v where
  holds := by
    intro wanted name _
    have hprobe : Gives (Holding v.entries) (store.probeKind name) (.ok (v.kindAt name)) := by
      apply gives_access
      intro m hm
      refine ⟨m, hm, ?_⟩
      rw [View.kindAt, ← hm.1]
      rfl
    exact hprobe.observe.bind_ok (Gives.pure _)
  getScalar := by
    intro name text hstored
    apply (gives_fetch name).bind_ok
    rw [hstored]
    exact Gives.pure text
  getHash := by
    intro name fields hstored
    have hget : Gives (Holding v.entries) (getHash name) (.ok fields.entries) := by
      apply (gives_fetch name).bind_ok
      rw [hstored]
      exact Gives.pure fields.entries
    exact hget.bind_ok (Gives.pure _)
  hasHashField := by
    intro name fields field hstored
    apply gives_access
    intro m hm
    refine ⟨m, hm, ?_⟩
    rw [← hm.1] at hstored
    rw [hstored]
    rfl
  getHashField := by
    intro name fields field text hstored hfield
    apply (gives_fetch name).bind_ok
    rw [hstored]
    simp only [hfield]
    exact Gives.pure text
  getList := by
    intro name entries hstored
    apply (gives_fetch name).bind_ok
    rw [hstored]
    exact Gives.pure entries

end

/-- An engine over a store in memory that lists fields in some order. -/
def engine (settings : Settings) (order : FieldOrder) : Engine MemoryStore :=
  ⟨settings, store.withFieldOrder order⟩

/-- What lookups make of the entries of a store. -/
def view (m : MemoryStore) (settings : Settings) (scope : Scope) (order : FieldOrder) : View :=
  ⟨settings, scope, order, m.entries⟩

end MemoryStore

end LayeredConfig
