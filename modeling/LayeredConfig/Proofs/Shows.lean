/-
Stores that show a view: whatever their states hold besides, every read gives
what the entries of the view say.  On such a store a request is answered by the
reply of the view, and reading leaves the store showing the same.
-/
import LayeredConfig.Proofs.View

namespace LayeredConfig

open LayeredConfig.Action

/-- The kind of the entry under a full key. -/
def View.kindAt (v : View) (name : String) : KeyKind :=
  match v.entries.get? name with
  | some value => value.kind
  | none => .none

/-- From all these states a store answers reads as the view says, and stays
among them. -/
structure KeyStore.Shows {σ : Type} (store : KeyStore σ) (states : σ → Prop) (v : View) :
    Prop where
  holds : ∀ wanted name, wanted ≠ KeyKind.none →
    Gives states (Engine.holds ⟨v.settings, store⟩ wanted name)
      (.ok (decide (v.kindAt name = wanted)))
  getScalar : ∀ {name text}, v.entries.get? name = some (.string text) →
    Gives states (store.getScalar name) (.ok text)
  getHash : ∀ {name fields}, v.entries.get? name = some (.hash fields) →
    Gives states (store.getHash name) (.ok (v.order.arrange name fields.entries))
  hasHashField : ∀ {name fields} field, v.entries.get? name = some (.hash fields) →
    Gives states (store.hasHashField name field) (.ok (fields.contains field))
  getHashField : ∀ {name fields field text}, v.entries.get? name = some (.hash fields) →
    fields.get? field = some text → Gives states (store.getHashField name field) (.ok text)
  getList : ∀ {name entries}, v.entries.get? name = some (.list entries) →
    Gives states (store.getList name) (.ok entries)

namespace KeyStore.Shows

variable {σ : Type} {store : KeyStore σ} {states : σ → Prop} {v : View}

theorem existingKeys (h : store.Shows states v) (key : String) {wanted : KeyKind}
    (hwanted : wanted ≠ .none) (paths : List String) :
    Gives states (Engine.existingKeys ⟨v.settings, store⟩ key wanted paths)
      (.ok ((paths.map fun path => v.settings.absoluteKey path key).filter fun name =>
        decide (v.kindAt name = wanted))) := by
  induction paths with
  | nil => exact Gives.pure []
  | cons path rest ih =>
      apply (h.holds wanted (v.settings.absoluteKey path key) hwanted).bind_ok
      apply ih.bind_ok
      rw [List.map_cons, List.filter_cons]
      exact Gives.pure _

/-- The candidates of a kind are the full keys under which that kind can be
read. -/
theorem candidateKeys {α : Type} (h : store.Shows states v) (key : String) (wanted : KeyKind)
    (read? : StoredValue → Option α) (hwanted : wanted ≠ .none)
    (hread : ∀ value, (read? value).isSome = decide (value.kind = wanted)) :
    Gives states (Engine.candidateKeys ⟨v.settings, store⟩ key wanted v.scope)
      (.ok ((v.stored key read?).map Prod.fst)) := by
  have hnames : (v.stored key read?).map Prod.fst =
      (v.names key).filter fun name => decide (v.kindAt name = wanted) := by
    unfold View.stored
    induction v.names key with
    | nil => rfl
    | cons name rest ih =>
        rw [List.filterMap_cons, List.filter_cons]
        cases hvalue : v.entries.get? name with
        | none =>
            have hkind : ¬ v.kindAt name = wanted := by
              simpa [View.kindAt, hvalue] using hwanted.symm
            simpa [hkind] using ih
        | some value =>
            have hkind : v.kindAt name = value.kind := by simp [View.kindAt, hvalue]
            have := hread value
            cases hfound : read? value with
            | none =>
                rw [hfound] at this
                have hne : ¬ value.kind = wanted := of_decide_eq_false this.symm
                simpa [hfound, hkind, hne] using ih
            | some found =>
                rw [hfound] at this
                have heq : value.kind = wanted := of_decide_eq_true this.symm
                simpa [hfound, hkind, heq] using ih
  rw [hnames]
  exact h.existingKeys key hwanted _

section Lookups

variable {expand : String → Action σ String} {value : String → Except Failure String}

/-- Expanding what was read under a name, and noting where it came from. -/
private theorem expandItem (hexpand : ∀ text, Gives states (expand text) (value text))
    {α : Type} (text : String) (note : String → α) :
    Gives states (do let answer ← expand text; return note answer)
      (do let answer ← value text; return note answer) :=
  (hexpand text).bind fun answer _ => Gives.pure (note answer)

theorem scalarBy (h : store.Shows states v)
    (hexpand : ∀ text, Gives states (expand text) (value text)) (key : String) :
    Gives states (Engine.scalarBy ⟨v.settings, store⟩ expand v.scope key)
      (v.reply value (.scalar key)) := by
  refine (h.candidateKeys key .string StoredValue.string? (by decide)
    (fun value => by cases value <;> rfl)).bind_ok ?_
  rw [List.foldlM_map]
  apply Gives.foldlM
  intro item hitem before
  obtain ⟨_, stored, hstored, hread⟩ := View.mem_stored_iff.1 hitem
  rw [StoredValue.string?_eq_some_iff.1 hread] at hstored
  exact (h.getScalar hstored).bind_ok (expandItem hexpand item.2 _)

theorem mergeFields (hexpand : ∀ text, Gives states (expand text) (value text))
    (name : String) (merged : NameMap Sourced) (fields : List (String × String)) :
    Gives states (Engine.mergeFields expand name merged fields)
      (View.merge value name merged fields) :=
  Gives.foldlM (fun field _ _ => expandItem hexpand field.2 _) merged

theorem hashBy (h : store.Shows states v)
    (hexpand : ∀ text, Gives states (expand text) (value text)) (key : String) :
    Gives states (Engine.hashBy ⟨v.settings, store⟩ expand v.scope key)
      (v.reply value (.hash key)) := by
  refine (h.candidateKeys key .hash StoredValue.hash? (by decide)
    (fun value => by cases value <;> rfl)).bind_ok ?_
  rw [List.foldlM_map]
  apply Gives.foldlM
  intro item hitem before
  obtain ⟨_, stored, hstored, hread⟩ := View.mem_stored_iff.1 hitem
  rw [StoredValue.hash?_eq_some_iff.1 hread] at hstored
  exact (h.getHash hstored).bind_ok (mergeFields hexpand item.1 before _)

/-- The hashes of a key that have a field are those that are asked for it and
say so. -/
theorem stored_fieldNamed? (v : View) (key field : String) :
    v.stored key (StoredValue.fieldNamed? field) =
      (v.stored key StoredValue.hash?).filterMap fun item =>
        (item.2.get? field).map (item.1, ·) := by
  unfold View.stored
  rw [List.filterMap_filterMap]
  congr 1
  funext name
  cases v.entries.get? name with
  | none => rfl
  | some value => cases value <;> rfl

theorem hashFieldBy (h : store.Shows states v)
    (hexpand : ∀ text, Gives states (expand text) (value text)) (key field : String) :
    Gives states (Engine.hashFieldBy ⟨v.settings, store⟩ expand v.scope key field)
      (v.reply value (.hashField key field)) := by
  refine (h.candidateKeys key .hash StoredValue.hash? (by decide)
    (fun value => by cases value <;> rfl)).bind_ok ?_
  rw [List.foldlM_map]
  refine Gives.bind ?_ fun found _ => ?_
  · rw [stored_fieldNamed?, List.foldlM_filterMap]
    apply Gives.foldlM
    intro item hitem before
    obtain ⟨_, stored, hstored, hread⟩ := View.mem_stored_iff.1 hitem
    rw [StoredValue.hash?_eq_some_iff.1 hread] at hstored
    apply (h.hasHashField field hstored).bind_ok
    cases hfield : item.2.get? field with
    | none =>
        simp only [NameMap.contains, hfield]
        exact Gives.pure before
    | some text =>
        simp only [NameMap.contains, hfield]
        exact (h.getHashField hstored hfield).bind_ok (expandItem hexpand text _)
  · cases found with
    | none => exact Gives.throw _
    | some found => exact Gives.pure found

theorem lookupList (h : store.Shows states v) (key : String) :
    Gives states (Engine.lookupList ⟨v.settings, store⟩ v.scope key)
      (.ok (v.listEntries key)) := by
  refine (h.candidateKeys key .list StoredValue.list? (by decide)
    (fun value => by cases value <;> rfl)).bind_ok ?_
  rw [List.foldlM_map]
  have hfold : (.ok (v.listEntries key) : Except Failure (List Sourced)) =
      (v.stored key StoredValue.list?).foldlM (fun entries item =>
        return entries ++ item.2.map fun value => ⟨value, item.1⟩) [] := by
    rw [List.foldlM_pure, List.foldl_append_eq_append, View.listEntries]
    rfl
  rw [hfold]
  apply Gives.foldlM
  intro item hitem before
  obtain ⟨_, stored, hstored, hread⟩ := View.mem_stored_iff.1 hitem
  rw [StoredValue.list?_eq_some_iff.1 hread] at hstored
  exact (h.getList hstored).bind_ok (Gives.pure _)

theorem listIndexBy (h : store.Shows states v)
    (hexpand : ∀ text, Gives states (expand text) (value text)) (key : String) (index : Int) :
    Gives states (Engine.listIndexBy ⟨v.settings, store⟩ expand v.scope key index)
      (v.reply value (.listIndex key index)) := by
  unfold Engine.listIndexBy
  simp only [View.reply]
  by_cases hindex : index < 0
  · simp only [if_pos hindex]
    exact Gives.throw _
  · simp only [if_neg hindex]
    apply (h.lookupList key).bind_ok
    cases (v.listEntries key)[index.toNat]? with
    | none => exact Gives.throw _
    | some entry => exact expandItem hexpand entry.value _

/-- A request is answered by the reply of the view. -/
theorem serveBy (h : store.Shows states v)
    (hexpand : ∀ text, Gives states (expand text) (value text)) (request : Request) :
    Gives states (Engine.serveBy ⟨v.settings, store⟩ expand v.scope request)
      (v.reply value request) := by
  cases request with
  | text value => exact hexpand value
  | scalar key => exact h.scalarBy hexpand key
  | hash key => exact h.hashBy hexpand key
  | hashField key field => exact h.hashFieldBy hexpand key field
  | list key => exact h.lookupList key
  | listIndex key index => exact h.listIndexBy hexpand key index

theorem resolveBy (h : store.Shows states v)
    (hexpand : ∀ text, Gives states (expand text) (value text)) (reference : Reference) :
    Gives states (Engine.resolveBy ⟨v.settings, store⟩ expand v.scope reference)
      (v.resolved value reference) := by
  cases reference with
  | listIndex key index =>
      exact (h.listIndexBy hexpand key index).bind fun found _ => Gives.pure found.value
  | hashField key field =>
      exact (h.hashFieldBy hexpand key field).bind fun found _ => Gives.pure found.value
  | scalar key => exact (h.scalarBy hexpand key).bind fun found _ => Gives.pure found.value

end Lookups

end KeyStore.Shows

end LayeredConfig
