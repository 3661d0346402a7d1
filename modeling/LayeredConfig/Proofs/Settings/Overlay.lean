/-
What a field reads after one mapping has been laid over another.  A name is
read off a key whether the key has a tag or not, but entries are laid over each
other only under the same key.  So a field that the upper mapping names by a
plain text is merged into the lower one, and a field that it names under a tag
is there twice and cannot be read any more.
-/
import LayeredConfig.Proofs.Listing
import LayeredConfig.Settings.Document

namespace LayeredConfig.Yaml.Value

@[simp] theorem text?_text (s : String) : (text s).text? = some s := rfl

@[simp] theorem text?_tagged (tag : String) (value : Value) :
    (tagged tag value).text? = value.text? := rfl

/-- Keys that are the same are read as the same name. -/
theorem text?_of_same {a b : Value} (h : same a b = true) : a.text? = b.text? := by
  cases a with
  | tagged s a =>
      cases b with
      | tagged t b =>
          rw [same, Bool.and_eq_true] at h
          rw [text?_tagged, text?_tagged]
          exact text?_of_same h.2
      | _ => cases h
  | text s =>
      cases b with
      | text t => rw [beq_iff_eq.1 h]
      | _ => cases h
  | _ =>
      cases b with
      | tagged => cases h
      | text => cases h
      | _ => rfl

/-- Only a plain text is the same as a plain text. -/
theorem same_text_iff {key : Value} {name : String} :
    same key (text name) = true ↔ key = text name := by
  cases key with
  | text s => simp [same]
  | _ =>
      constructor
      · intro h
        cases h
      · intro h
        cases h

theorem text_same_iff {key : Value} {name : String} :
    same (text name) key = true ↔ key = text name := by
  cases key with
  | text s => rw [same, beq_iff_eq, text.injEq, eq_comm]
  | _ =>
      constructor
      · intro h
        cases h
      · intro h
        cases h

def isMapping : Value → Bool
  | mapping _ => true
  | _ => false

def entries : Value → List (Value × Value)
  | mapping entries => entries
  | _ => []

theorem eq_mapping_of_isMapping {value : Value} (h : value.isMapping = true) :
    value = mapping value.entries := by
  cases value with
  | mapping entries => rfl
  | _ => cases h

/-- What is no mapping is replaced as a whole. -/
theorem overlay_of_not_isMapping {base : Value} (hbase : base.isMapping = false) (top : Value) :
    overlay base top = top := by
  cases top with
  | mapping entries =>
      cases base with
      | mapping below => cases hbase
      | _ => simp [overlay]
  | _ => simp [overlay]

/-- The value of the first key of a mapping that is read as a name. -/
def get? (document : Value) (name : String) : Option Value :=
  (document.entries.find? fun entry => entry.1.text? == some name).map Prod.snd

/-- Is a name only there as a plain text, and never under a tag? -/
def NamesPlainly (document : Value) (name : String) : Prop :=
  ∀ entry ∈ document.entries, entry.1.text? = some name → entry.1 = text name

instance (key : Value) (name : String) : Decidable (key = text name) :=
  decidable_of_iff _ same_text_iff

instance (document : Value) (name : String) : Decidable (document.NamesPlainly name) :=
  inferInstanceAs (Decidable (∀ entry ∈ document.entries, _))

/-- The entries whose keys are read as a name. -/
def entriesNamed (name : String) (entries : List (Value × Value)) : List (Value × Value) :=
  entries.filter fun entry => entry.1.text? == some name

section Step

variable {name : String} {key value kept : Value} {below : List (Value × Value)}

/-- Merging into some entries keeps all keys. -/
theorem entriesNamed_merge :
    entriesNamed name (below.map fun entry =>
        if same key entry.1 then (entry.1, overlay entry.2 value) else entry) =
      (entriesNamed name below).map fun entry =>
        if same key entry.1 then (entry.1, overlay entry.2 value) else entry := by
  rw [entriesNamed, entriesNamed, List.filter_map]
  congr 1
  apply List.filter_congr
  intro entry _
  simp only [Function.comp_apply]
  split <;> rfl

/-- An entry does nothing to other names. -/
theorem entriesNamed_overlayEntry_of_ne (hkey : key.text? ≠ some name) :
    entriesNamed name (overlayEntry key value below) = entriesNamed name below := by
  rw [overlayEntry]
  split
  · rw [entriesNamed_merge]
    conv => rhs; rw [← List.map_id (entriesNamed name below)]
    apply List.map_congr_left
    intro entry hentry
    have hread : entry.1.text? = some name := by simpa using (List.mem_filter.1 hentry).2
    have hother : ¬ same key entry.1 = true := fun hsame =>
      hkey ((text?_of_same hsame).trans hread)
    rw [if_neg hother, id]
  · rw [entriesNamed, entriesNamed, List.filter_append]
    simp [hkey]

/-- Under a plain text it is merged into what is there. -/
theorem entriesNamed_overlayEntry_plain (hkept : entriesNamed name below = [(text name, kept)]) :
    entriesNamed name (overlayEntry (text name) value below) =
      [(text name, overlay kept value)] := by
  have hmem : (text name, kept) ∈ below := by
    have hnamed : (text name, kept) ∈ entriesNamed name below := by
      rw [hkept]
      exact List.mem_singleton_self _
    exact (List.mem_filter.1 hnamed).1
  have hkey : hasKey (text name) below = true :=
    List.any_eq_true.2 ⟨_, hmem, text_same_iff.2 rfl⟩
  rw [overlayEntry, if_pos hkey, entriesNamed_merge, hkept, List.map_singleton,
    if_pos (text_same_iff.2 rfl)]

/-- Under a tag it is put beside it. -/
theorem entriesNamed_overlayEntry_tagged (hkept : entriesNamed name below = [(text name, kept)])
    (hkey : key.text? = some name) (htagged : key ≠ text name) :
    entriesNamed name (overlayEntry key value below) = [(text name, kept), (key, value)] := by
  have hnew : ¬ hasKey key below = true := by
    intro hhas
    obtain ⟨entry, hentry, hsame⟩ := List.any_eq_true.1 hhas
    have hnamed : entry ∈ entriesNamed name below :=
      List.mem_filter.2 ⟨hentry, by simp [← text?_of_same hsame, hkey]⟩
    rw [hkept, List.mem_singleton] at hnamed
    rw [hnamed] at hsame
    exact htagged (same_text_iff.1 hsame)
  rw [overlayEntry, if_neg hnew, entriesNamed, List.filter_append, ← entriesNamed, hkept]
  simp [hkey]

end Step

section Run

variable {name : String} {kept value key : Value} {below top : List (Value × Value)}

/-- Nothing happens to a name that is not in the upper mapping. -/
theorem entriesNamed_overlayEntries_of_nil (htop : entriesNamed name top = []) :
    entriesNamed name (overlayEntries below top) = entriesNamed name below := by
  induction top generalizing below with
  | nil => rw [overlayEntries]
  | cons entry rest ih =>
      obtain ⟨key, value⟩ := entry
      rw [entriesNamed, List.filter_eq_nil_iff] at htop
      obtain ⟨hkey, hrest⟩ := List.forall_mem_cons.1 htop
      rw [overlayEntries, ih (List.filter_eq_nil_iff.2 hrest)]
      exact entriesNamed_overlayEntry_of_ne (by simpa using hkey)

/-- What a single entry of the upper mapping does to its name is all that
happens to that. -/
theorem entriesNamed_overlayEntries_of_single (below : List (Value × Value))
    (htop : entriesNamed name top = [(key, value)]) :
    ∃ before, entriesNamed name before = entriesNamed name below ∧
      entriesNamed name (overlayEntries below top) =
        entriesNamed name (overlayEntry key value before) := by
  induction top generalizing below with
  | nil => cases htop
  | cons entry rest ih =>
      obtain ⟨first, found⟩ := entry
      rw [overlayEntries]
      by_cases hfirst : first.text? = some name
      · rw [entriesNamed, List.filter_cons_of_pos (by simpa using hfirst)] at htop
        obtain ⟨hentry, hrest⟩ := List.cons.inj htop
        cases hentry
        exact ⟨below, rfl, entriesNamed_overlayEntries_of_nil hrest⟩
      · rw [entriesNamed, List.filter_cons_of_neg (by simpa using hfirst)] at htop
        obtain ⟨before, hbefore, hlaid⟩ := ih (overlayEntry first found below) htop
        exact ⟨before, hbefore.trans (entriesNamed_overlayEntry_of_ne hfirst), hlaid⟩

end Run

section Fields

variable {name : String} {key value kept : Value} {below top : List (Value × Value)}

/-- Can all keys be read as names? -/
def NamedByTexts (entries : List (Value × Value)) : Prop :=
  ∀ entry ∈ entries, entry.1.text?.isSome = true

theorem NamedByTexts.overlayEntry (hbelow : NamedByTexts below) (hkey : key.text?.isSome = true) :
    NamedByTexts (overlayEntry key value below) := by
  rw [Value.overlayEntry]
  split
  · intro entry hentry
    obtain ⟨old, hold, rfl⟩ := List.mem_map.1 hentry
    have hread := hbelow old hold
    split <;> exact hread
  · intro entry hentry
    rcases List.mem_append.1 hentry with hold | hnew
    · exact hbelow entry hold
    · rw [List.mem_singleton.1 hnew]
      exact hkey

theorem NamedByTexts.overlayEntries (hbelow : NamedByTexts below) (htop : NamedByTexts top) :
    NamedByTexts (overlayEntries below top) := by
  induction top generalizing below with
  | nil =>
      rw [Value.overlayEntries]
      exact hbelow
  | cons entry rest ih =>
      obtain ⟨hkey, hrest⟩ := List.forall_mem_cons.1 htop
      rw [Value.overlayEntries]
      exact ih (hbelow.overlayEntry hkey) hrest

theorem fields?_mapping (htexts : NamedByTexts top) :
    (mapping top).fields? = some (top.map fun entry => (entry.1.text?.getD "", entry.2)) := by
  apply mapM_eq_pure
  intro entry hentry
  obtain ⟨read, hread⟩ := Option.isSome_iff_exists.1 (htexts entry hentry)
  rw [hread]
  rfl

theorem namedByTexts_of_fields? {fields : List (String × Value)}
    (hfields : (mapping top).fields? = some fields) : NamedByTexts top := by
  change top.mapM (fun entry => entry.1.text?.map (·, entry.2)) = some fields at hfields
  induction top generalizing fields with
  | nil => nofun
  | cons entry rest ih =>
      rw [List.mapM_cons] at hfields
      obtain ⟨field, hfield, hothers⟩ := Option.bind_eq_some_iff.1 hfields
      obtain ⟨others, hrest, _⟩ := Option.bind_eq_some_iff.1 hothers
      obtain ⟨read, hread, _⟩ := Option.map_eq_some_iff.1 hfield
      exact List.forall_mem_cons.2 ⟨by rw [hread]; rfl, ih hrest⟩

variable {α : Type} {read? : Value → Option α} {default own result : α}

/-- Read a field of a mapping. -/
def field? (document : Value) (name : String) (read? : Value → Option α) (default : α) :
    Option α :=
  document.fields?.bind fun fields => readField fields name read? default

/-- Read the only entry of a name, if there is not more than one. -/
def readOnly? (read? : Value → Option α) (default : α) : List (Value × Value) → Option α
  | [] => some default
  | [entry] => read? entry.2
  | _ :: _ :: _ => none

theorem field?_mapping (htexts : NamedByTexts top) :
    (mapping top).field? name read? default = readOnly? read? default (entriesNamed name top) := by
  have hsame : (top.map fun entry => (entry.1.text?.getD "", entry.2)).filter
      (fun field => field.1 == name) =
        (entriesNamed name top).map fun entry => (entry.1.text?.getD "", entry.2) := by
    rw [List.filter_map, entriesNamed]
    congr 1
    apply List.filter_congr
    intro entry hentry
    obtain ⟨read, hread⟩ := Option.isSome_iff_exists.1 (htexts entry hentry)
    simp [hread]
  rw [field?, fields?_mapping htexts, Option.bind_some, readField, hsame]
  match entriesNamed name top with
  | [] => rfl
  | [entry] => rfl
  | _ :: _ :: _ => rfl

theorem get?_mapping (top : List (Value × Value)) (name : String) :
    (mapping top).get? name = (entriesNamed name top).head?.map Prod.snd := by
  rw [get?, entries, entriesNamed, List.head?_filter]

theorem namesPlainly_mapping_iff :
    (mapping top).NamesPlainly name ↔ ∀ entry ∈ entriesNamed name top, entry.1 = text name := by
  simp only [NamesPlainly, entries, entriesNamed, List.mem_filter, beq_iff_eq, and_imp]

/-- A field that the lower mapping has under a plain text, and that the upper
mapping has at most once, can be read after one has been laid over the other
just if the upper mapping does not name it under a tag.  It is then what the
upper mapping makes of the value below, if it has the field. -/
theorem field?_overlay_iff (hbelow : NamedByTexts below)
    (hkept : entriesNamed name below = [(text name, kept)])
    (hown : (mapping top).field? name read? default = some own) :
    ((mapping below).overlay (mapping top)).field? name read? default = some result ↔
      (mapping top).NamesPlainly name ∧
        (((mapping top).get? name).elim (read? kept) fun value => read? (overlay kept value)) =
          some result := by
  obtain ⟨fields, hfields, _⟩ := Option.bind_eq_some_iff.1 hown
  have htexts : NamedByTexts top := namedByTexts_of_fields? hfields
  have hoverlay : (mapping below).overlay (mapping top) = mapping (overlayEntries below top) := by
    rw [overlay]
  rw [hoverlay, field?_mapping (hbelow.overlayEntries htexts), get?_mapping,
    namesPlainly_mapping_iff]
  rw [field?_mapping htexts] at hown
  cases htop : entriesNamed name top with
  | nil =>
      rw [entriesNamed_overlayEntries_of_nil htop, hkept]
      simp [readOnly?]
  | cons entry rest =>
      rw [htop] at hown
      obtain ⟨key, value⟩ := entry
      cases rest with
      | cons => cases hown
      | nil =>
          obtain ⟨before, hbefore, hlaid⟩ := entriesNamed_overlayEntries_of_single below htop
          rw [hlaid]
          rw [hkept] at hbefore
          by_cases hplain : key = text name
          · subst hplain
            rw [entriesNamed_overlayEntry_plain hbefore]
            simp [readOnly?]
          · have hread : key.text? = some name := by
              have hmem : (key, value) ∈ entriesNamed name top := by
                rw [htop]
                exact List.mem_singleton_self _
              simpa using (List.mem_filter.1 hmem).2
            rw [entriesNamed_overlayEntry_tagged hbefore hread hplain]
            simp [readOnly?, hplain]

/-- What a mapping has under a name is what the field of the name is read as. -/
theorem read?_of_get? (hown : (mapping top).field? name read? default = some own)
    (hvalue : (mapping top).get? name = some value) : read? value = some own := by
  obtain ⟨fields, hfields, _⟩ := Option.bind_eq_some_iff.1 hown
  rw [field?_mapping (namedByTexts_of_fields? hfields)] at hown
  rw [get?_mapping] at hvalue
  match hnamed : entriesNamed name top with
  | [] =>
      rw [hnamed] at hvalue
      cases hvalue
  | [only] =>
      rw [hnamed] at hvalue hown
      cases hvalue
      exact hown
  | _ :: _ :: _ =>
      rw [hnamed] at hown
      cases hown

/-- Is a field there once, under a plain text, as a value that is no mapping
and is read in this way? -/
def HasField (entries : List (Value × Value)) (name : String) (read? : Value → Option α)
    (old : α) : Prop :=
  ∃ kept, entriesNamed name entries = [(text name, kept)] ∧ kept.isMapping = false ∧
    read? kept = some old

theorem HasField.field?_eq {old : α} (hbelow : NamedByTexts below)
    (hfield : HasField below name read? old) :
    (mapping below).field? name read? default = some old := by
  obtain ⟨kept, hkept, _, hold⟩ := hfield
  rw [field?_mapping hbelow, hkept]
  exact hold

/-- Such a field is replaced as a whole. -/
theorem HasField.overlay_iff {old : α} (hbelow : NamedByTexts below)
    (hfield : HasField below name read? old)
    (hown : (mapping top).field? name read? default = some own) :
    ((mapping below).overlay (mapping top)).field? name read? default = some result ↔
      (mapping top).NamesPlainly name ∧
        result = (((mapping top).get? name).map fun _ => own).getD old := by
  obtain ⟨kept, hkept, hwhole, hold⟩ := hfield
  rw [field?_overlay_iff hbelow hkept hown]
  apply and_congr_right
  intro _
  cases hvalue : (mapping top).get? name with
  | none => simp [hold, eq_comm]
  | some value =>
      have hread := read?_of_get? hown hvalue
      simp [overlay_of_not_isMapping hwhole, hread, eq_comm]

end Fields

end LayeredConfig.Yaml.Value
