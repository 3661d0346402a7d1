/-
Which hashes the fields of a merged hash come from.  All fields of all layers
have to be expanded, and then every field that some layer has is that of the
first layer in configured order which has it.  Looking one field up takes
another way through the store and arrives at the same layer.
-/
import LayeredConfig.Proofs.Precedence
import LayeredConfig.Proofs.Union

namespace LayeredConfig

open LayeredConfig.Action

namespace View

variable {v : View} {value : String → Except Failure String}

/-- The layers that have a text for a field are those whose hash has it. -/
theorem layers_fieldNamed? (v : View) (key field : String) :
    v.layers key (StoredValue.fieldNamed? field) =
      (v.layers key StoredValue.hash?).filterMap fun layer =>
        (layer.2.get? field).map (layer.1, ·) := by
  have hstored := KeyStore.Shows.stored_fieldNamed? v key field
  rw [stored_eq_reverse_layers, stored_eq_reverse_layers, List.filterMap_reverse] at hstored
  exact List.reverse_injective hstored

/-- So the text of the first hash that has a field comes first. -/
theorem layers_fieldNamed?_of_first {key field raw : String}
    {before after : List (String × NameMap String)} {layer : String × NameMap String}
    (hlayers : v.layers key StoredValue.hash? = before ++ layer :: after)
    (hbefore : ∀ earlier ∈ before, earlier.2.get? field = none)
    (hraw : layer.2.get? field = some raw) :
    ∃ rest, v.layers key (StoredValue.fieldNamed? field) = (layer.1, raw) :: rest := by
  have hnone : (before.filterMap fun earlier =>
      (earlier.2.get? field).map (earlier.1, ·)) = [] := by
    apply List.filterMap_eq_nil_iff.2
    intro earlier hearlier
    rw [hbefore earlier hearlier]
    rfl
  rw [layers_fieldNamed?, hlayers, List.filterMap_append, hnone, List.nil_append,
    List.filterMap_cons, hraw]
  exact ⟨_, rfl⟩

theorem layers_fieldNamed?_eq_nil_iff {key field : String} :
    v.layers key (StoredValue.fieldNamed? field) = [] ↔
      ∀ layer ∈ v.layers key StoredValue.hash?, layer.2.get? field = none := by
  rw [layers_fieldNamed?, List.filterMap_eq_nil_iff]
  simp only [Option.map_eq_none_iff]

/-- What is read last comes out on top, if it can be expanded. -/
theorem latest_reverse_cons {first : String × String} {text : String}
    (hfirst : value first.2 = .ok text) (before : Option Sourced)
    (rest : List (String × String)) :
    latest value before (first :: rest).reverse = some ⟨text, first.1⟩ := by
  rw [latest, List.reverse_cons, List.foldl_append, List.foldl_cons, hfirst]
  rfl

/-- A merged hash needs every field of every layer. -/
theorem exists_reply_hash_iff {key : String} :
    (∃ merged, v.reply value (.hash key) = .ok merged) ↔
      ∀ layer ∈ v.layers key StoredValue.hash?, ∀ field raw, layer.2.get? field = some raw →
        ∃ text, value raw = .ok text := by
  have hlayers : (∀ entry ∈ v.hashEntries key, ∃ text, value entry.2.2 = .ok text) ↔
      ∀ layer ∈ v.layers key StoredValue.hash?, ∀ field raw, layer.2.get? field = some raw →
        ∃ text, value raw = .ok text := by
    rw [forall_ofField_iff fun raw => ∃ text, value raw = .ok text]
    simp only [ofField_hashEntries, stored_eq_reverse_layers, List.mem_reverse,
      layers_fieldNamed?, List.mem_filterMap, Option.map_eq_some_iff]
    constructor
    · intro h layer hlayer field raw hraw
      exact h field (layer.1, raw) ⟨layer, hlayer, raw, hraw, rfl⟩
    · rintro h field _ ⟨layer, hlayer, raw, hraw, rfl⟩
      exact h layer hlayer field raw hraw
  rw [← hlayers, reply_hash_eq_foldlM]
  constructor
  · rintro ⟨merged, hmerged⟩
    exact (foldlM_put_ok_iff.1 hmerged).1
  · intro hall
    cases hfold : (v.hashEntries key).foldlM (put value) NameMap.empty with
    | ok merged => exact ⟨merged, rfl⟩
    | error failure =>
        obtain ⟨entry, hentry, _, hstep⟩ := foldlM_error_step hfold
        have hfailed : value entry.2.2 = .error failure := bind_pure_eq_error_iff.1 hstep
        obtain ⟨text, htext⟩ := hall entry hentry
        rw [hfailed] at htext
        cases htext

/-- A merged hash has a field just if some layer has it. -/
theorem contains_of_reply_hash {key : String} {merged : NameMap Sourced}
    (h : v.reply value (.hash key) = .ok merged) (field : String) :
    merged.contains field = true ↔
      ∃ layer ∈ v.layers key StoredValue.hash?, layer.2.contains field = true := by
  obtain ⟨hall, hget⟩ := reply_hash_ok_iff.1 h field
  rw [stored_eq_reverse_layers] at hall hget
  cases hlayers : v.layers key (StoredValue.fieldNamed? field) with
  | nil =>
      rw [hlayers] at hget
      have hnone := layers_fieldNamed?_eq_nil_iff.1 hlayers
      simp only [NameMap.contains, hget, latest]
      simpa using hnone
  | cons first rest =>
      rw [hlayers] at hall hget
      obtain ⟨text, htext⟩ := hall first (by simp)
      rw [latest_reverse_cons htext] at hget
      have hfirst : first ∈ v.layers key (StoredValue.fieldNamed? field) := by
        rw [hlayers]
        exact List.mem_cons_self
      rw [layers_fieldNamed?] at hfirst
      obtain ⟨layer, hlayer, hraw⟩ := List.mem_filterMap.1 hfirst
      obtain ⟨raw, hraw, _⟩ := Option.map_eq_some_iff.1 hraw
      simp only [NameMap.contains, hget, Option.isSome_some, true_iff]
      exact ⟨layer, hlayer, by rw [hraw]; rfl⟩

/-- It has the field of the first layer that has it. -/
theorem get?_of_reply_hash {key field raw : String} {merged : NameMap Sourced}
    {before after : List (String × NameMap String)} {layer : String × NameMap String}
    (h : v.reply value (.hash key) = .ok merged)
    (hlayers : v.layers key StoredValue.hash? = before ++ layer :: after)
    (hbefore : ∀ earlier ∈ before, earlier.2.get? field = none)
    (hraw : layer.2.get? field = some raw) :
    ∃ found, merged.get? field = some found ∧ value raw = .ok found.value ∧
      found.source = layer.1 := by
  obtain ⟨hall, hget⟩ := reply_hash_ok_iff.1 h field
  obtain ⟨rest, hfirst⟩ := layers_fieldNamed?_of_first hlayers hbefore hraw
  rw [stored_eq_reverse_layers, hfirst] at hall hget
  obtain ⟨text, htext⟩ := hall (layer.1, raw) (by simp)
  rw [latest_reverse_cons htext] at hget
  exact ⟨⟨text, layer.1⟩, hget, htext, rfl⟩

/-- In which order a store lists fields makes no difference to what it reads. -/
theorem readsLike_of_order (v : View) (order : FieldOrder) :
    v.ReadsLike { v with order := order } where
  settings := rfl
  strings _ := rfl
  fields _ _ := rfl
  lists _ := rfl

/-- Going through the texts of a field keeps the last one. -/
theorem foldlM_eq_latest {found : List (String × String)}
    (hall : ∀ item ∈ found, ∃ text, value item.2 = .ok text) (before : Option Sourced) :
    (found.foldlM (fun _ item => do
        let text ← value item.2
        return some ⟨text, item.1⟩) before : Except Failure (Option Sourced)) =
      .ok (latest value before found) := by
  induction found generalizing before with
  | nil => rfl
  | cons item rest ih =>
      obtain ⟨⟨text, htext⟩, hrest⟩ := List.forall_mem_cons.1 hall
      rw [List.foldlM_cons, htext, latest, List.foldl_cons, htext]
      exact ih hrest (some ⟨text, item.1⟩)

/-- Looking a field up finds what the merged hash has of it. -/
theorem reply_hashField_of_reply_hash {key : String} {merged : NameMap Sourced}
    (h : v.reply value (.hash key) = .ok merged) (field : String) :
    v.reply value (.hashField key field) =
      (merged.get? field).elim (.error (.hashFieldNotFound key field)) .ok := by
  obtain ⟨hall, hget⟩ := reply_hash_ok_iff.1 h field
  rw [reply, foldlM_eq_latest hall, hget]
  cases latest value none (v.stored key (StoredValue.fieldNamed? field)) <;> rfl

end View

namespace MemoryStore

variable (settings : Settings) (scope : Scope) (order : FieldOrder) {m : MemoryStore}

/-- A merged hash unites its layers.  There is one just if every field of every
layer can be expanded, overridden ones included.  It has the fields that some
layer has, each with the expanded value and the full key of the first layer in
configured order that has it.  In which order the store lists the fields of a
hash makes no difference. -/
theorem lookupHash_unites_layers (havailable : m.unavailable = false) (key : String) :
    ((∃ merged, (((engine settings order).lookupHash scope key).outcome m).1 = .ok merged) ↔
      ∀ layer ∈ (m.view settings scope order).layers key StoredValue.hash?,
        ∀ field raw, layer.2.get? field = some raw → ∃ text,
          (((engine settings order).expand scope raw).outcome m).1 = .ok text) ∧
    (∀ merged, (((engine settings order).lookupHash scope key).outcome m).1 = .ok merged →
      ∀ field,
        (merged.contains field = true ↔
          ∃ layer ∈ (m.view settings scope order).layers key StoredValue.hash?,
            layer.2.contains field = true) ∧
        ∀ before layer after raw,
          (m.view settings scope order).layers key StoredValue.hash? =
            before ++ layer :: after →
          (∀ earlier ∈ before, earlier.2.get? field = none) →
          layer.2.get? field = some raw →
            ∃ found, merged.get? field = some found ∧
              (((engine settings order).expand scope raw).outcome m).1 = .ok found.value ∧
              found.source = layer.1) ∧
    ∀ other merged,
      (((engine settings order).lookupHash scope key).outcome m).1 = .ok merged ↔
        (((engine settings other).lookupHash scope key).outcome m).1 = .ok merged := by
  have hexpand : ∀ text, (((engine settings order).expand scope text).outcome m).1 =
      (m.view settings scope order).expansionAt 0 text :=
    expandAt_result settings scope order havailable 0
  have hanswer : ∀ order', (((engine settings order').lookupHash scope key).outcome m).1 =
      (m.view settings scope order').reply ((m.view settings scope order').expansionAt 0)
        (.hash key) :=
    fun order' => serve_result settings scope order' havailable (.hash key)
  simp only [hexpand, hanswer]
  refine ⟨View.exists_reply_hash_iff, fun merged hmerged field => ⟨?_, ?_⟩, ?_⟩
  · exact View.contains_of_reply_hash hmerged field
  · intro before layer after raw hlayers hbefore hraw
    exact View.get?_of_reply_hash hmerged hlayers hbefore hraw
  · intro other merged
    have hlike := (m.view settings scope order).readsLike_of_order other
    exact hlike.answer (.hash key) merged

/-- Two layers of a hash that share a field, with a name to be put into one. -/
def databases : MemoryStore where
  entries := NameMap.ofList
    [("cfg:default:db", .hash (NameMap.ofList [("host", "db"), ("user", "reader")])),
      ("cfg:default:name", .string "store"),
      ("cfg:site/east:db", .hash (NameMap.ofList [("host", "$\x7bname\x7d.east"), ("port", "1")]))]

/-- A store that lists fields from the last name to the first. -/
def lastNameFirst : FieldOrder :=
  ⟨fun _ fields => fields.reverse, fun _ fields => fields.reverse_perm⟩

/-- The host of the site hides the usual one, and all other fields are there. -/
theorem lookupHash_unites_layers_databases :
    let settings : Settings :=
      { keyPaths := ["pod/%\x7bpod\x7d", "site/%\x7bsite\x7d", "default"] }
    let scope := Scope.ofPairs [("site", "east")]
    databases.unavailable = false ∧
      ∃ merged,
        (((engine settings .byName).lookupHash scope "db").outcome databases).1 = .ok merged ∧
        (((engine settings lastNameFirst).lookupHash scope "db").outcome databases).1 = .ok merged ∧
        merged.get? "host" = some ⟨"store.east", "cfg:site/east:db"⟩ ∧
        merged.get? "user" = some ⟨"reader", "cfg:default:db"⟩ ∧
        merged.contains "port" = true ∧ merged.contains "password" = false := by
  intro settings scope
  have havailable : databases.unavailable = false := rfl
  let site : NameMap String := NameMap.ofList [("host", "$\x7bname\x7d.east"), ("port", "1")]
  let general : NameMap String := NameMap.ofList [("host", "db"), ("user", "reader")]
  have hlayers : (databases.view settings scope .byName).layers "db" StoredValue.hash? =
      [("cfg:site/east:db", site), ("cfg:default:db", general)] := by decide +kernel
  -- all texts stand for themselves, apart from the one with a reference in it
  let expanded : String → String := fun raw =>
    if raw = "$\x7bname\x7d.east" then "store.east" else raw
  have hexpanded : ∀ layer ∈ [("cfg:site/east:db", site), ("cfg:default:db", general)],
      ∀ entry ∈ layer.2.entries,
        (((engine settings .byName).expand scope entry.2).outcome databases).1 =
          .ok (expanded entry.2) := by decide +kernel
  obtain ⟨hanswered, hfields, horder⟩ :=
    lookupHash_unites_layers settings scope .byName havailable "db"
  rw [hlayers] at hanswered hfields
  obtain ⟨merged, hmerged⟩ := hanswered.2 fun layer hlayer field raw hraw =>
    ⟨expanded raw, hexpanded layer hlayer (field, raw) ((layer.2.mem_entries_iff field raw).2 hraw)⟩
  refine ⟨havailable, merged, hmerged, (horder lastNameFirst merged).1 hmerged, ?_, ?_, ?_, ?_⟩
  · obtain ⟨⟨text, source⟩, hfound, htext, hsource⟩ :=
      (hfields merged hmerged "host").2 [] _ _ _ rfl nofun rfl
    rw [hexpanded ("cfg:site/east:db", site) (by decide)
      ("host", "$\x7bname\x7d.east") (by decide)] at htext
    cases htext
    obtain rfl : source = "cfg:site/east:db" := hsource
    exact hfound
  · obtain ⟨⟨text, source⟩, hfound, htext, hsource⟩ :=
      (hfields merged hmerged "user").2 [("cfg:site/east:db", site)] _ _ _ rfl
        (by decide) rfl
    rw [hexpanded ("cfg:default:db", general) (by decide) ("user", "reader") (by decide)] at htext
    cases htext
    obtain rfl : source = "cfg:default:db" := hsource
    exact hfound
  · exact (hfields merged hmerged "port").1.2 ⟨_, List.mem_cons_self, by decide⟩
  · rw [Bool.eq_false_iff, ne_eq, (hfields merged hmerged "password").1]
    decide

/-- A lookup of a single field agrees with the merged hash.  Wherever there is
a merged hash, the field has the same value from the same layer, or is missing
from both.  The store may have been read in between. -/
theorem lookupHashField_agrees (havailable : m.unavailable = false) {key : String}
    {merged : NameMap Sourced}
    (hmerged : (((engine settings order).lookupHash scope key).outcome m).1 = .ok merged)
    {later : MemoryStore} (hentries : later.entries = m.entries)
    (hlater : later.unavailable = false) (field : String) :
    (∀ found, merged.get? field = some found →
      (((engine settings order).lookupHashField scope key field).outcome later).1 = .ok found) ∧
    (merged.get? field = none →
      (((engine settings order).lookupHashField scope key field).outcome later).1 =
        .error (.hashFieldNotFound key field)) := by
  have hreply : (m.view settings scope order).reply
      ((m.view settings scope order).expansionAt 0) (.hash key) = .ok merged := by
    rw [← hmerged]
    exact (serve_result settings scope order havailable (.hash key)).symm
  have hsame : later.view settings scope order = m.view settings scope order := by
    rw [view, hentries, view]
  have hanswer : (((engine settings order).lookupHashField scope key field).outcome later).1 =
      (merged.get? field).elim (.error (.hashFieldNotFound key field)) .ok := by
    rw [← View.reply_hashField_of_reply_hash hreply, ← hsame]
    exact serve_result settings scope order hlater (.hashField key field)
  rw [hanswer]
  constructor
  · intro found hfound
    rw [hfound]
    rfl
  · intro hnone
    rw [hnone]
    rfl

/-- The host comes from the site either way, also from the store that the first
lookup leaves, and nobody has a password. -/
theorem lookupHashField_agrees_databases :
    let settings : Settings := { keyPaths := ["site/%\x7bsite\x7d", "default"] }
    let scope := Scope.ofPairs [("site", "east")]
    let hash := ((engine settings .byName).lookupHash scope "db").outcome databases
    let field := fun name =>
      (((engine settings .byName).lookupHashField scope "db" name).outcome hash.2).1
    databases.unavailable = false ∧ hash.2.entries = databases.entries ∧
      hash.2.unavailable = false ∧
      ∃ merged, hash.1 = .ok merged ∧
        merged.get? "host" = some ⟨"store.east", "cfg:site/east:db"⟩ ∧
        field "host" = .ok ⟨"store.east", "cfg:site/east:db"⟩ ∧
        merged.get? "password" = none ∧
        field "password" = .error (.hashFieldNotFound "db" "password") := by
  intro settings scope hash field
  have havailable : databases.unavailable = false := rfl
  have hentries : hash.2.entries = databases.entries := by decide +kernel
  have hlater : hash.2.unavailable = false := by decide +kernel
  let merged : NameMap Sourced := NameMap.ofList
    [("host", ⟨"store.east", "cfg:site/east:db"⟩), ("port", ⟨"1", "cfg:site/east:db"⟩),
      ("user", ⟨"reader", "cfg:default:db"⟩)]
  have hmerged : hash.1 = .ok merged := by decide +kernel
  have hhost : merged.get? "host" = some ⟨"store.east", "cfg:site/east:db"⟩ := by decide
  have hpassword : merged.get? "password" = none := by decide
  have hagrees := lookupHashField_agrees settings scope .byName havailable hmerged hentries hlater
  exact ⟨havailable, hentries, hlater, merged, hmerged, hhost, (hagrees "host").1 _ hhost,
    hpassword, (hagrees "password").2 hpassword⟩

end MemoryStore

end LayeredConfig
