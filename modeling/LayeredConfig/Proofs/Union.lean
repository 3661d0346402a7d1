/-
What a lookup of a hash answers.  Every field has the value of the last hash
that has it, and there is an answer just if all fields of all hashes can be
expanded; in which order a store lists fields makes no difference.  So views
that read the same values answer alike.
-/
import LayeredConfig.Proofs.Expansion

namespace LayeredConfig

/-- Do two stores answer a request alike?  Which field of a hash fails first
depends on the order in which fields are listed, so that of an answer to a
lookup of a hash only the fields count. -/
def Request.SameAnswer : (request : Request) →
    (answer other : Except Failure request.Reply) → Prop
  | .hash _, answer, other => ∀ fields, answer = .ok fields ↔ other = .ok fields
  | .text _, answer, other => answer = other
  | .scalar _, answer, other => answer = other
  | .hashField _ _, answer, other => answer = other
  | .list _, answer, other => answer = other
  | .listIndex _ _, answer, other => answer = other

namespace View

variable {v w : View} {value : String → Except Failure String}

/-- The texts of one field among fields with the names of their hashes. -/
def ofField (field : String) (entries : List (String × String × String)) :
    List (String × String) :=
  entries.filterMap fun entry => if entry.2.1 = field then some (entry.1, entry.2.2) else none

/-- The last text that can be expanded, with the name of its hash. -/
def latest (value : String → Except Failure String) (before : Option Sourced)
    (found : List (String × String)) : Option Sourced :=
  found.foldl (fun before item =>
    match value item.2 with
    | .ok text => some ⟨text, item.1⟩
    | .error _ => before) before

def put (value : String → Except Failure String) (merged : NameMap Sourced)
    (entry : String × String × String) : Except Failure (NameMap Sourced) := do
  let text ← value entry.2.2
  return merged.insert entry.2.1 ⟨text, entry.1⟩

/-- Fields that are put one after another all have to be expanded, and of those
with one name the last one stays. -/
theorem foldlM_put_ok_iff {entries : List (String × String × String)}
    {start out : NameMap Sourced} :
    entries.foldlM (put value) start = .ok out ↔
      (∀ entry ∈ entries, ∃ text, value entry.2.2 = .ok text) ∧
        ∀ field, out.get? field = latest value (start.get? field) (ofField field entries) := by
  induction entries generalizing start with
  | nil =>
      constructor
      · intro h
        cases h
        exact ⟨nofun, fun _ => rfl⟩
      · rintro ⟨_, h⟩
        rw [NameMap.ext_get? h]
        rfl
  | cons entry rest ih =>
      rw [List.foldlM_cons]
      cases hvalue : value entry.2.2 with
      | error failure =>
          have hput : put value start entry = .error failure := by
            rw [put, hvalue]
            rfl
          rw [hput]
          constructor
          · intro h
            cases h
          · rintro ⟨hall, _⟩
            obtain ⟨text, htext⟩ := hall entry List.mem_cons_self
            rw [hvalue] at htext
            cases htext
      | ok text =>
          have hput : put value start entry = .ok (start.insert entry.2.1 ⟨text, entry.1⟩) := by
            rw [put, hvalue]
            rfl
          have hlatest : ∀ field,
              latest value ((start.insert entry.2.1 ⟨text, entry.1⟩).get? field)
                  (ofField field rest) =
                latest value (start.get? field) (ofField field (entry :: rest)) := by
            intro field
            rw [NameMap.get?_insert, ofField, ofField, List.filterMap_cons]
            by_cases hfield : entry.2.1 = field
            · simp [hfield, latest, hvalue]
            · simp [hfield, Ne.symm hfield]
          rw [hput]
          change rest.foldlM (put value) _ = .ok out ↔ _
          rw [ih, List.forall_mem_cons]
          simp only [hlatest, hvalue, Except.ok.injEq, exists_eq', true_and]

/-- One hash has at most one text for a field. -/
theorem ofField_entries (fields : NameMap String) (field name : String) :
    ofField field (fields.entries.map (name, ·)) =
      ((fields.get? field).map (name, ·)).toList := by
  obtain ⟨entries, hsorted⟩ := fields
  simp only [NameMap.get?]
  induction entries with
  | nil => rfl
  | cons head rest ih =>
      obtain ⟨hhead, hrest⟩ := List.pairwise_cons.1 hsorted
      have ih := ih hrest
      rw [ofField] at ih ⊢
      by_cases hfield : head.1 = field
      · subst hfield
        rw [NameMap.find?_eq_none_of_lt hhead] at ih
        simp [NameMap.find?, ih]
      · simp [NameMap.find?, hfield, Ne.symm hfield, ih]

/-- Neither has it more in another order. -/
theorem ofField_of_perm {fields : NameMap String} {listed : List (String × String)}
    (hperm : listed.Perm fields.entries) (field name : String) :
    ofField field (listed.map (name, ·)) = ((fields.get? field).map (name, ·)).toList := by
  have hsame : (ofField field (listed.map (name, ·))).Perm
      ((fields.get? field).map (name, ·)).toList := by
    rw [← ofField_entries]
    exact (hperm.map _).filterMap _
  cases hfound : fields.get? field with
  | none =>
      rw [hfound] at hsame
      exact List.perm_nil.1 hsame
  | some text =>
      rw [hfound] at hsame
      exact List.perm_singleton.1 hsame

/-- The fields of all hashes of a key as they are listed, with the names of the
hashes. -/
def hashEntries (v : View) (key : String) : List (String × String × String) :=
  (v.stored key StoredValue.hash?).flatMap fun item =>
    (v.order.arrange item.1 item.2.entries).map (item.1, ·)

theorem reply_hash_eq_foldlM (key : String) :
    v.reply value (.hash key) = (v.hashEntries key).foldlM (put value) NameMap.empty := by
  simp only [reply, hashEntries]
  generalize (NameMap.empty : NameMap Sourced) = start
  induction v.stored key StoredValue.hash? generalizing start with
  | nil => rfl
  | cons item rest ih =>
      rw [List.flatMap_cons, List.foldlM_append, List.foldlM_cons, List.foldlM_map]
      congr 1
      funext merged
      exact ih merged

/-- Of a field the texts count that are stored under it. -/
theorem ofField_hashEntries (v : View) (key field : String) :
    ofField field (v.hashEntries key) = v.stored key (StoredValue.fieldNamed? field) := by
  rw [KeyStore.Shows.stored_fieldNamed?, hashEntries, ofField, List.filterMap_flatMap]
  induction v.stored key StoredValue.hash? with
  | nil => rfl
  | cons item rest ih =>
      have hitem := ofField_of_perm (v.order.perm item.1 item.2.entries) field item.1
      rw [ofField] at hitem
      rw [List.flatMap_cons, ih, hitem, List.filterMap_cons]
      cases item.2.get? field <;> rfl

theorem forall_ofField_iff (P : String → Prop) {entries : List (String × String × String)} :
    (∀ entry ∈ entries, P entry.2.2) ↔
      ∀ field, ∀ item ∈ ofField field entries, P item.2 := by
  constructor
  · intro h field item hitem
    obtain ⟨entry, hentry, hsome⟩ := List.mem_filterMap.1 hitem
    split at hsome
    · cases hsome
      exact h entry hentry
    · cases hsome
  · intro h entry hentry
    exact h entry.2.1 (entry.1, entry.2.2) (List.mem_filterMap.2 ⟨entry, hentry, if_pos rfl⟩)

/-- The answer to a lookup of a hash, field by field. -/
theorem reply_hash_ok_iff {key : String} {out : NameMap Sourced} :
    v.reply value (.hash key) = .ok out ↔
      ∀ field, (∀ item ∈ v.stored key (StoredValue.fieldNamed? field),
          ∃ text, value item.2 = .ok text) ∧
        out.get? field =
          latest value none (v.stored key (StoredValue.fieldNamed? field)) := by
  rw [reply_hash_eq_foldlM, foldlM_put_ok_iff, forall_ofField_iff fun text =>
    ∃ expanded, value text = .ok expanded, ← forall_and]
  simp only [ofField_hashEntries, NameMap.get?_empty]

/-- Two views under the same settings read the same values, apart from the order
in which fields are listed and from hashes and lists that hold nothing. -/
structure ReadsLike (v w : View) : Prop where
  settings : v.settings = w.settings
  strings : ∀ key, v.stored key StoredValue.string? = w.stored key StoredValue.string?
  fields : ∀ key field,
    v.stored key (StoredValue.fieldNamed? field) = w.stored key (StoredValue.fieldNamed? field)
  lists : ∀ key, v.listEntries key = w.listEntries key

namespace ReadsLike

theorem reply (h : v.ReadsLike w) (value : String → Except Failure String) (request : Request) :
    request.SameAnswer (v.reply value request) (w.reply value request) := by
  cases request with
  | text text => rfl
  | scalar key => simp only [Request.SameAnswer, View.reply, h.strings]
  | hash key =>
      intro fields
      rw [reply_hash_ok_iff, reply_hash_ok_iff]
      simp only [h.fields]
  | hashField key field => simp only [Request.SameAnswer, View.reply, h.fields]
  | list key => simp only [Request.SameAnswer, View.reply, h.lists]
  | listIndex key index => simp only [Request.SameAnswer, View.reply, h.lists]

theorem resolved (h : v.ReadsLike w) (value : String → Except Failure String)
    (reference : Reference) : v.resolved value reference = w.resolved value reference := by
  cases reference with
  | listIndex key index =>
      have hreply := h.reply value (.listIndex key index)
      simp only [View.resolved]
      rw [hreply]
  | hashField key field =>
      have hreply := h.reply value (.hashField key field)
      simp only [View.resolved]
      rw [hreply]
  | scalar key =>
      have hreply := h.reply value (.scalar key)
      simp only [View.resolved]
      rw [hreply]

theorem expansionAt (h : v.ReadsLike w) (depth : Nat) (value : String) :
    v.expansionAt depth value = w.expansionAt depth value := by
  fun_induction View.expansionAt v depth value with
  | case1 depth value hnone => rw [View.expansionAt, hnone]
  | case2 depth value inner reference others hsome hlimit =>
      rw [h.settings] at hlimit
      rw [View.expansionAt, hsome]
      simp only [dif_pos hlimit]
  | case3 depth value inner reference others hsome hlimit ih =>
      rw [h.settings] at hlimit
      have hsame : v.expansionAt (depth + 1) = w.expansionAt (depth + 1) := funext ih
      rw [View.expansionAt, hsome]
      simp only [dif_neg hlimit, replacements, hsame, h.resolved]

/-- Such views answer every request alike. -/
theorem answer (h : v.ReadsLike w) (request : Request) :
    request.SameAnswer (v.reply (v.expansionAt 0) request)
      (w.reply (w.expansionAt 0) request) := by
  have hsame : v.expansionAt 0 = w.expansionAt 0 := funext (h.expansionAt 0)
  rw [hsame]
  exact h.reply (w.expansionAt 0) request

end ReadsLike

end View

end LayeredConfig
