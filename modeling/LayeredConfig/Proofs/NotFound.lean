/-
When a manager says that a key is not found.  It looks at the answer of a
lookup that has come to its end, and an answer is empty just if nothing was
found, because no full key is empty.  What fails on the way fails in another
way.
-/
import LayeredConfig.Proofs.Absence
import LayeredConfig.Proofs.HashFields
import LayeredConfig.Proofs.MemoryReads

namespace LayeredConfig

open LayeredConfig.Action

theorem NameMap.isEmpty_iff {β : Type} {m : NameMap β} :
    m.isEmpty = true ↔ ∀ name, ¬ m.contains name = true := by
  rw [isEmpty, List.isEmpty_iff]
  constructor
  · intro hnil name hcontains
    rw [contains, get?, hnil] at hcontains
    cases hcontains
  · intro hnone
    apply List.eq_nil_iff_forall_not_mem.2
    intro entry hmem
    apply hnone entry.1
    rw [contains, (m.mem_entries_iff entry.1 entry.2).1 hmem]
    rfl

namespace View

variable {α : Type} {v : View} {value : String → Except Failure String} {key : String}

theorem not_isEmpty_of_source {found : Sourced} (h : found.source ∈ v.names key) :
    found.isEmpty = false := by
  obtain ⟨path, _, hsource⟩ := List.mem_map.1 h
  have hname := v.settings.absoluteKey_ne_empty path key
  rw [hsource] at hname
  simpa [Sourced.isEmpty] using hname

/-- What holds of everything of a kind that is read for a key holds of all that
is stored of this kind under its full keys. -/
theorem forall_mem_stored_iff {read? : StoredValue → Option α} {make : α → StoredValue}
    (hread : ∀ {stored found}, read? stored = some found ↔ stored = make found) (P : α → Prop) :
    (∀ item ∈ v.stored key read?, P item.2) ↔
      ∀ name ∈ v.names key, ∀ found, v.entries.get? name = some (make found) → P found := by
  constructor
  · intro h name hname found hfound
    exact h (name, found) (mem_stored_iff.2 ⟨hname, _, hfound, hread.2 rfl⟩)
  · intro h item hitem
    obtain ⟨hname, stored, hstored, hfound⟩ := mem_stored_iff.1 hitem
    rw [hread.1 hfound] at hstored
    exact h item.1 hname item.2 hstored

/-- A string that was found has the full key that it came from, whatever its
text. -/
theorem reply_scalar_empty_iff :
    (∃ found, v.reply value (.scalar key) = .ok found ∧ found.isEmpty = true) ↔
      ∀ name ∈ v.names key, ∀ text, v.entries.get? name ≠ some (.string text) := by
  rw [← forall_mem_stored_iff StoredValue.string?_eq_some_iff fun _ => False,
    reply_scalar_eq_foldrM, stored_eq_reverse_layers]
  simp only [List.mem_reverse]
  have hsource : ∀ layer ∈ v.layers key StoredValue.string?, layer.1 ≠ "" :=
    fun layer hlayer => layers_source_ne_empty hlayer
  generalize v.layers key StoredValue.string? = layers at hsource ⊢
  constructor
  · rintro ⟨found, hfound, hempty⟩
    cases layers with
    | nil => exact nofun
    | cons first rest =>
        have hshown := (foldrM_overlay_cons hfound).2
        have hnone : found.source = "" := by
          simpa [Sourced.isEmpty] using hempty
        exact absurd (hshown.symm.trans hnone) (hsource first List.mem_cons_self)
  · intro hnone
    cases layers with
    | nil => exact ⟨{}, rfl, rfl⟩
    | cons first rest => exact (hnone first List.mem_cons_self).elim

/-- The fields of a merged hash are those of the hashes. -/
theorem reply_hash_empty_iff :
    (∃ merged, v.reply value (.hash key) = .ok merged ∧ merged.isEmpty = true) ↔
      ∀ name ∈ v.names key, ∀ fields, v.entries.get? name = some (.hash fields) →
        fields.isEmpty = true := by
  rw [← forall_mem_stored_iff StoredValue.hash?_eq_some_iff fun fields => fields.isEmpty = true,
    stored_eq_reverse_layers]
  simp only [List.mem_reverse, NameMap.isEmpty_iff]
  constructor
  · rintro ⟨merged, hmerged, hempty⟩ layer hlayer field hfield
    exact hempty field ((contains_of_reply_hash hmerged field).2 ⟨layer, hlayer, hfield⟩)
  · intro hnone
    have hmerged : ∃ merged, v.reply value (.hash key) = .ok merged := by
      apply exists_reply_hash_iff.2
      intro layer hlayer field raw hraw
      apply absurd _ (hnone layer hlayer field)
      rw [NameMap.contains, hraw]
      rfl
    obtain ⟨merged, hmerged⟩ := hmerged
    refine ⟨merged, hmerged, fun field hfield => ?_⟩
    obtain ⟨layer, hlayer, hcontains⟩ := (contains_of_reply_hash hmerged field).1 hfield
    exact hnone layer hlayer field hcontains

theorem reply_list_empty_iff :
    (∃ entries, v.reply value (.list key) = .ok entries ∧ entries.isEmpty = true) ↔
      ∀ name ∈ v.names key, ∀ entries, v.entries.get? name = some (.list entries) →
        entries.isEmpty = true := by
  have hentries : (∃ entries, v.reply value (.list key) = .ok entries ∧ entries.isEmpty = true) ↔
      v.listEntries key = [] := by
    constructor
    · rintro ⟨_, ⟨⟩, hempty⟩
      exact List.isEmpty_iff.1 hempty
    · intro hnil
      exact ⟨v.listEntries key, rfl, List.isEmpty_iff.2 hnil⟩
  rw [hentries, listEntries, List.flatMap_eq_nil_iff,
    ← forall_mem_stored_iff StoredValue.list?_eq_some_iff fun entries => entries.isEmpty = true]
  simp only [List.map_eq_nil_iff, List.isEmpty_iff]

/-- A field that was found has the full key of its hash. -/
theorem source_of_reply_hashField {field : String} {found : Sourced}
    (h : v.reply value (.hashField key field) = .ok found) : found.source ∈ v.names key := by
  obtain ⟨last, hfold, hlast⟩ := bind_eq_ok_iff.1 h
  have hsource : ∀ sourced ∈ last, sourced.source ∈ v.names key := by
    apply foldlM_ok_keeps (P := fun last => ∀ sourced ∈ last, sourced.source ∈ v.names key) _ nofun
      hfold
    rintro item hitem before _ hstep _ sourced hlast
    obtain ⟨text, _, hput⟩ := bind_eq_ok_iff.1 hstep
    cases hput
    cases hlast
    exact (mem_stored_iff.1 hitem).1
  cases last with
  | none => cases hlast
  | some last =>
      cases hlast
      exact hsource found rfl

/-- An entry that was found has the full key of its list. -/
theorem source_of_reply_listIndex {index : Int} {found : Sourced}
    (h : v.reply value (.listIndex key index) = .ok found) : found.source ∈ v.names key := by
  simp only [reply] at h
  split at h
  · cases h
  · cases hentry : (v.listEntries key)[index.toNat]? with
    | none =>
        rw [hentry] at h
        cases h
    | some entry =>
        simp only [hentry] at h
        obtain ⟨text, _, hfound⟩ := bind_eq_ok_iff.1 h
        cases hfound
        obtain ⟨item, hitem, hmem⟩ := List.mem_flatMap.1 (List.mem_of_getElem? hentry)
        obtain ⟨_, _, rfl⟩ := List.mem_map.1 hmem
        exact (mem_stored_iff.1 hitem).1

end View

/-- The result of a lookup that says that the key was not found just if nothing
is there, and answers with something if it answers. -/
structure TellsAbsence (key : String) (nothing : Prop) (result : Except Failure Answer) :
    Prop where
  absent_iff : ∀ absent, result = .error (.keyNotFound absent) ↔ absent = key ∧ nothing
  not_empty : ∀ answer, result = .ok answer → answer.isEmpty = false

namespace Manager

variable {σ α : Type} {key : String} {look : Action σ α} {make : α → Answer} {state : σ}

theorem result_orNotFound :
    ((do
      let found ← look
      orNotFound key (make found) : Action σ Answer).outcome state).1 =
      (look.outcome state).1 >>= fun found =>
        if (make found).isEmpty then .error (.keyNotFound key) else .ok (make found) := by
  rw [outcome_bind]
  rcases look.outcome state with ⟨failure | found, left⟩
  · rfl
  · by_cases hempty : (make found).isEmpty = true
    · simp only [orNotFound, if_pos hempty]
      exact (if_pos hempty).symm
    · simp only [orNotFound, if_neg hempty]
      exact (if_neg hempty).symm

/-- A lookup that never says itself that the key was not found leaves it to the
look at its answer. -/
theorem orNotFound_absent_iff (hlook : NeverAbsent look) {absent : String} :
    ((do
      let found ← look
      orNotFound key (make found) : Action σ Answer).outcome state).1 =
        .error (.keyNotFound absent) ↔
      absent = key ∧
        ∃ found, (look.outcome state).1 = .ok found ∧ (make found).isEmpty = true := by
  rw [result_orNotFound, bind_eq_error_iff]
  constructor
  · rintro (hfailed | ⟨found, hfound, hanswer⟩)
    · cases hlook state _ hfailed
    · split at hanswer
      · next hempty =>
          cases hanswer
          exact ⟨rfl, found, hfound, hempty⟩
      · cases hanswer
  · rintro ⟨rfl, found, hfound, hempty⟩
    exact Or.inr ⟨found, hfound, if_pos hempty⟩

theorem orNotFound_ok_iff {answer : Answer} :
    ((do
      let found ← look
      orNotFound key (make found) : Action σ Answer).outcome state).1 = .ok answer ↔
      ∃ found, (look.outcome state).1 = .ok found ∧ make found = answer ∧
        answer.isEmpty = false := by
  rw [result_orNotFound, bind_eq_ok_iff]
  constructor
  · rintro ⟨found, hfound, hanswer⟩
    split at hanswer
    · cases hanswer
    · next hempty =>
        cases hanswer
        exact ⟨found, hfound, rfl, Bool.eq_false_iff.2 hempty⟩
  · rintro ⟨found, hfound, rfl, hempty⟩
    exact ⟨found, hfound, if_neg (Bool.eq_false_iff.1 hempty)⟩

theorem tellsAbsence_orNotFound (hlook : NeverAbsent look) {nothing : Prop}
    (hnothing : (∃ found, (look.outcome state).1 = .ok found ∧ (make found).isEmpty = true) ↔
      nothing) :
    TellsAbsence key nothing
      ((do
        let found ← look
        orNotFound key (make found) : Action σ Answer).outcome state).1 where
  absent_iff absent := by rw [orNotFound_absent_iff hlook, hnothing]
  not_empty answer hanswer := by
    obtain ⟨_, _, _, hempty⟩ := orNotFound_ok_iff.1 hanswer
    exact hempty

/-- One whose answer is not looked at never says so. -/
theorem tellsAbsence_pure (hlook : NeverAbsent look)
    (hmake : ∀ found, (look.outcome state).1 = .ok found → (make found).isEmpty = false) :
    TellsAbsence key False
      ((do
        let found ← look
        return make found : Action σ Answer).outcome state).1 where
  absent_iff absent := by
    rw [outcome_bind_pure, bind_pure_eq_error_iff]
    constructor
    · intro hfailed
      cases hlook state _ hfailed
    · rintro ⟨_, ⟨⟩⟩
  not_empty answer hanswer := by
    rw [outcome_bind_pure] at hanswer
    obtain ⟨found, hfound, hmade⟩ := bind_eq_ok_iff.1 hanswer
    cases hmade
    exact hmake found hfound

end Manager

namespace MemoryStore

variable (settings : Settings) (scope : Scope) (order : FieldOrder)

/-- What a lookup reads of a store in memory fails in other ways only. -/
theorem alike_neverAbsent :
    (engine settings order).AlikeInLayers
      (fun (α : Type) (action _ : Action MemoryStore α) => NeverAbsent action) scope
      (engine settings order) scope :=
  alikeInLayers settings scope order rfl rfl fun _ hreads state failure hfailure => by
    have hstore := hreads.failure hfailure
    cases failure with
    | keyNotFound key => cases hstore
    | _ => rfl

theorem neverAbsent_expandAt (depth : Nat) (value : String) :
    NeverAbsent ((engine settings order).expandAt scope depth value) :=
  (alike_neverAbsent settings scope order).expandAt NeverAbsent.congruence rfl
    (fun _ _ => .throw rfl) depth value

theorem neverAbsent_serve (request : Request) :
    NeverAbsent ((engine settings order).serve scope request) :=
  (alike_neverAbsent settings scope order).serve NeverAbsent.congruence rfl
    (fun _ _ => .throw rfl) request

theorem neverAbsent_resolveAt (depth : Nat) (reference : Reference) :
    NeverAbsent ((engine settings order).resolveAt scope depth reference) := by
  apply (alike_neverAbsent settings scope order).resolveBy NeverAbsent.congruence
  · exact neverAbsent_expandAt settings scope order depth
  · exact (engine settings order).expandAt scope depth

variable {settings order} {manager : Manager MemoryStore Unit} {m : MemoryStore}

/-- A manager says that a key is not found exactly when nothing was found.  It
says so of a string if no applicable key has one, even an empty one, of a hash
or a list if all applicable ones are empty, and of the key that was looked up.
It never says so of a field or an entry, and no reference in a value does.  An
answer that it gives is not empty. -/
theorem manager_tells_absence
    (hmanager : Manager.new settings (.always (store.withFieldOrder order)) = .ok manager)
    (havailable : m.unavailable = false) (key : String) :
    let names := (m.view settings scope order).names key
    TellsAbsence key (∀ name ∈ names, ∀ text, m.entries.get? name ≠ some (.string text))
      ((manager.lookupString scope key).outcome m).1 ∧
    (∀ name ∈ names, ∀ text, m.entries.get? name = some (.string text) → ∀ found,
      (((engine settings order).lookupScalar scope key).outcome m).1 = .ok found →
        ((manager.lookupString scope key).outcome m).1 = .ok (.string found)) ∧
    TellsAbsence key
      (∀ name ∈ names, ∀ fields, m.entries.get? name = some (.hash fields) →
        fields.isEmpty = true)
      ((manager.lookupHash scope key).outcome m).1 ∧
    TellsAbsence key
      (∀ name ∈ names, ∀ entries, m.entries.get? name = some (.list entries) →
        entries.isEmpty = true)
      ((manager.lookupList scope key).outcome m).1 ∧
    (∀ field, TellsAbsence key False ((manager.lookupHashField scope key field).outcome m).1) ∧
    (∀ index, TellsAbsence key False ((manager.lookupListIndex scope key index).outcome m).1) ∧
    (∀ depth value absent,
      (((engine settings order).expandAt scope depth value).outcome m).1 ≠
        .error (.keyNotFound absent)) ∧
    ∀ depth reference absent,
      (((engine settings order).resolveAt scope depth reference).outcome m).1 ≠
        .error (.keyNotFound absent) := by
  intro names
  obtain rfl := Manager.eq_of_new hmanager
  have hnever := neverAbsent_serve settings scope order
  have hreply := fun request => serve_result settings scope order havailable request
  refine ⟨Manager.tellsAbsence_orNotFound (hnever (.scalar key)) ?_, ?_,
    Manager.tellsAbsence_orNotFound (hnever (.hash key)) ?_,
    Manager.tellsAbsence_orNotFound (hnever (.list key)) ?_,
    fun field => Manager.tellsAbsence_pure (hnever (.hashField key field)) ?_,
    fun index => Manager.tellsAbsence_pure (hnever (.listIndex key index)) ?_, ?_, ?_⟩
  · rw [hreply]
    exact View.reply_scalar_empty_iff
  · intro name hname text hstored found hfound
    refine Manager.orNotFound_ok_iff.2 ⟨found, hfound, rfl, Bool.eq_false_iff.2 fun hempty => ?_⟩
    have hnone := View.reply_scalar_empty_iff.1 ⟨found, (hreply _).symm.trans hfound, hempty⟩
    exact hnone name hname text hstored
  · rw [hreply]
    exact View.reply_hash_empty_iff
  · rw [hreply]
    exact View.reply_list_empty_iff
  · intro found hfound
    exact View.not_isEmpty_of_source
      (View.source_of_reply_hashField ((hreply (.hashField key field)).symm.trans hfound))
  · intro found hfound
    exact View.not_isEmpty_of_source
      (View.source_of_reply_listIndex ((hreply (.listIndex key index)).symm.trans hfound))
  · intro depth value absent hfailed
    cases neverAbsent_expandAt settings scope order depth value m _ hfailed
  · intro depth reference absent hfailed
    cases neverAbsent_resolveAt settings scope order depth reference m _ hfailed

/-- A key, a path and a prefix without any text, and a string without any. -/
def blank : MemoryStore where
  entries := NameMap.ofList [(":", .string "")]

/-- The empty string is found there, and no hash. -/
theorem manager_tells_absence_blank :
    let settings : Settings := { keyPaths := [""], keyPrefix := "" }
    let manager : Manager MemoryStore Unit :=
      ⟨settings, .always (store.withFieldOrder .byName)⟩
    Manager.new settings (.always (store.withFieldOrder .byName)) = .ok manager ∧
      blank.unavailable = false ∧
      ((manager.lookupString .empty "").outcome blank).1 = .ok (.string ⟨"", ":"⟩) ∧
      ((manager.lookupHash .empty "").outcome blank).1 = .error (.keyNotFound "") := by
  intro settings manager
  have hmanager : Manager.new settings (.always (store.withFieldOrder .byName)) = .ok manager := rfl
  have havailable : blank.unavailable = false := rfl
  have hnames : (blank.view settings .empty .byName).names "" = [":"] := by decide +kernel
  have hstored : blank.entries.get? ":" = some (.string "") := by decide +kernel
  have hfound : (((engine settings .byName).lookupScalar .empty "").outcome blank).1 =
      .ok ⟨"", ":"⟩ := by decide +kernel
  obtain ⟨_, hstring, hhash, _⟩ := manager_tells_absence .empty hmanager havailable ""
  rw [hnames] at hstring hhash
  refine ⟨hmanager, havailable, hstring ":" (List.mem_singleton_self _) "" hstored _ hfound,
    (hhash.absent_iff "").2 ⟨rfl, fun name hname fields hfields => ?_⟩⟩
  obtain rfl := List.mem_singleton.1 hname
  rw [hstored] at hfields
  cases hfields

end MemoryStore

end LayeredConfig
