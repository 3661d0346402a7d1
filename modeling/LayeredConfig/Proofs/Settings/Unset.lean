/-
Settings files that set nothing.  There are many ways to write one: it may be
blank or null, an empty mapping, or a mapping of names that mean nothing here.
A mapping that sets nothing keeps the base that it is laid over.  Null is no
mapping: it takes the place of all that is below it, and is then read as the
defaults.
-/
import LayeredConfig.Proofs.Settings.Assembly

namespace LayeredConfig

open Yaml Yaml.Value

namespace Yaml.Value

variable {document : Value} {name : String}

/-- What is no mapping takes the place of what it is laid over. -/
theorem overlay_of_top_not_isMapping {top : Value} (htop : top.isMapping = false) (base : Value) :
    overlay base top = top := by
  cases top with
  | mapping entries => cases htop
  | _ => simp [overlay]

theorem namesPlainly_of_not_isMapping (h : document.isMapping = false) :
    document.NamesPlainly name := by
  cases document with
  | mapping entries => cases h
  | _ => nofun

/-- Is no key of a value read as a name, whether the value has a tag or not? -/
def Lacks (document : Value) (name : String) : Prop :=
  entriesNamed name document.untagged.entries = []

instance (document : Value) (name : String) : Decidable (document.Lacks name) :=
  decidable_of_iff ((entriesNamed name document.untagged.entries).isEmpty = true) List.isEmpty_iff

theorem Lacks.entriesNamed_eq_nil (h : document.Lacks name) :
    entriesNamed name document.entries = [] := by
  cases document with
  | mapping entries => exact h
  | _ => rfl

theorem Lacks.get?_eq_none (h : document.Lacks name) : document.get? name = none := by
  rw [get?, ← List.head?_filter, ← entriesNamed, h.entriesNamed_eq_nil]
  rfl

theorem Lacks.namesPlainly (h : document.Lacks name) : document.NamesPlainly name := by
  intro entry hentry hread
  have hnamed : entry ∈ entriesNamed name document.entries :=
    List.mem_filter.2 ⟨hentry, beq_iff_eq.2 hread⟩
  rw [h.entriesNamed_eq_nil] at hnamed
  cases hnamed

section Reading

variable {α : Type} {read? : Value → Option α} {default result : α}

/-- A field is read off the only entry of its name; there is none in null. -/
theorem field?_eq_readOnly? {fields : List (String × Value)}
    (hfields : document.fields? = some fields) :
    document.field? name read? default =
      readOnly? read? default (entriesNamed name document.untagged.entries) := by
  cases huntagged : document.untagged with
  | null =>
      rw [field?, fields?, huntagged]
      rfl
  | mapping entries =>
      have hsame : document.fields? = (mapping entries).fields? := by
        rw [fields?, huntagged]
        rfl
      rw [field?, hsame, ← field?, field?_mapping]
      · rfl
      · apply namedByTexts_of_fields?
        rw [← hsame, hfields]
  | _ =>
      rw [fields?, huntagged] at hfields
      cases hfields

theorem Lacks.eq_default (h : document.Lacks name)
    (hread : document.field? name read? default = some result) : result = default := by
  obtain ⟨fields, hfields, _⟩ := Option.bind_eq_some_iff.1 hread
  rw [field?_eq_readOnly? hfields, h] at hread
  cases hread
  rfl

end Reading

end Yaml.Value

namespace RedisSettings

/-- A value that names no field of the server settings is read as the defaults. -/
theorem eq_default_of_lacks {value : Value} {own : RedisSettings}
    (hlacks : ∀ name ∈ fieldNames, value.Lacks name) (hread : ofValue? value = some own) :
    own = {} := by
  obtain ⟨hurl, hmaxIdle, hmaxActive, hwait, hwaitTimeoutMs, hidleTimeoutSecs,
    hconnectTimeoutMs⟩ := ofValue?_eq_some_iff.1 hread
  simp only [fieldNames, List.forall_mem_cons] at hlacks
  obtain ⟨lurl, lmaxIdle, lmaxActive, lwait, lwaitTimeoutMs, lidleTimeoutSecs,
    lconnectTimeoutMs, _⟩ := hlacks
  rw [RedisSettings.ext_iff]
  exact ⟨lurl.eq_default hurl, lmaxIdle.eq_default hmaxIdle, lmaxActive.eq_default hmaxActive,
    lwait.eq_default hwait, lwaitTimeoutMs.eq_default hwaitTimeoutMs,
    lidleTimeoutSecs.eq_default hidleTimeoutSecs, lconnectTimeoutMs.eq_default hconnectTimeoutMs⟩

/-- Nothing is taken from a document that names no field. -/
theorem beneath_of_lacks {document : Value} (hlacks : ∀ name ∈ fieldNames, document.Lacks name)
    (base own : RedisSettings) : base.beneath document own = base := by
  have hnone : ∀ name ∈ fieldNames, document.get? name = none := fun name hname =>
    (hlacks name hname).get?_eq_none
  simp only [fieldNames, List.forall_mem_cons] at hnone
  obtain ⟨hurl, hmaxIdle, hmaxActive, hwait, hwaitTimeoutMs, hidleTimeoutSecs,
    hconnectTimeoutMs, _⟩ := hnone
  simp [beneath, hurl, hmaxIdle, hmaxActive, hwait, hwaitTimeoutMs, hidleTimeoutSecs,
    hconnectTimeoutMs]

end RedisSettings

namespace Settings

theorem validate_ok_iff {settings : Settings} :
    settings.validate = .ok () ↔ 0 < settings.maxSubstitutionDepth ∧
      0 < settings.redis.maxActive ∧ settings.redis.maxIdle ≤ settings.redis.maxActive := by
  rw [← defect?_eq_none_iff, validate]
  cases settings.defect? <;> simp

/-- Does a document set nothing?  It may still name the server settings, if
nothing is set in these. -/
def Unset (document : Value) : Prop :=
  (∀ name ∈ fieldNames, name ≠ "redis" → document.Lacks name) ∧
    ∀ entry ∈ entriesNamed "redis" document.untagged.entries,
      ∀ name ∈ RedisSettings.fieldNames, entry.2.Lacks name

instance (document : Value) : Decidable (Unset document) :=
  inferInstanceAs (Decidable (_ ∧ _))

/-- Read on its own such a document gives the defaults. -/
theorem Unset.eq_default {document : Value} {own : Settings} (h : Unset document)
    (hread : ofValue? document = some own) : own = {} := by
  obtain ⟨hfields, hinner⟩ := h
  obtain ⟨hkeyPaths, hkeyPrefix, hhdrPrefix, hdepth, hredis⟩ := ofValue?_eq_some_iff.1 hread
  have hservers : own.redis = {} := by
    obtain ⟨fields, hsome, _⟩ := Option.bind_eq_some_iff.1 hredis
    rw [field?_eq_readOnly? hsome] at hredis
    match hnamed : entriesNamed "redis" document.untagged.entries with
    | [] =>
        rw [hnamed] at hredis
        exact (Option.some.inj hredis).symm
    | [only] =>
        rw [hnamed] at hredis hinner
        exact RedisSettings.eq_default_of_lacks (hinner only (List.mem_singleton_self only)) hredis
    | _ :: _ :: _ =>
        rw [hnamed] at hredis
        cases hredis
  rw [Settings.ext_iff]
  exact ⟨(hfields "key_paths" (by decide) (by decide)).eq_default hkeyPaths,
    (hfields "key_prefix" (by decide) (by decide)).eq_default hkeyPrefix,
    (hfields "hdr_prefix" (by decide) (by decide)).eq_default hhdrPrefix,
    (hfields "max_substitution_depth" (by decide) (by decide)).eq_default hdepth, hservers⟩

/-- What a mapping that sets nothing keeps of the base beneath it: all of it,
except that server settings that are named but are no mapping become the
defaults. -/
def keptBeneath (base : Settings) (document : Value) : Settings :=
  { base with redis := if (document.get? "redis").all isMapping then base.redis else {} }

section Overlay

variable {base own : Settings} {top : List (Value × Value)}

theorem Unset.field?_redis_overlay_iff {result : RedisSettings} (h : Unset (mapping top))
    (hbase : base.FitsWords) (hown : ofValue? (mapping top) = some own) :
    (base.toValue.overlay (mapping top)).field? "redis" RedisSettings.ofValue?
          ({} : Settings).redis = some result ↔
      (mapping top).NamesPlainly "redis" ∧ result = (base.keptBeneath (mapping top)).redis := by
  obtain ⟨_, _, _, _, hredis⟩ := ofValue?_eq_some_iff.1 hown
  have hkept : entriesNamed "redis" base.toValue.entries =
      [(text "redis", base.redis.toValue)] := rfl
  have hlaid : base.toValue = mapping base.toValue.entries := rfl
  rw [hlaid, field?_overlay_iff base.namedByTexts_toValue hkept hredis, keptBeneath]
  apply and_congr_right
  intro _
  cases hvalue : (mapping top).get? "redis" with
  | none => simp [RedisSettings.ofValue?_toValue hbase.redis, eq_comm]
  | some inner =>
      have hread : RedisSettings.ofValue? inner = some own.redis := read?_of_get? hredis hvalue
      have hlacks : ∀ name ∈ RedisSettings.fieldNames, inner.Lacks name := by
        rw [get?_mapping] at hvalue
        obtain ⟨entry, hentry, rfl⟩ := Option.map_eq_some_iff.1 hvalue
        exact h.2 entry (List.mem_of_head? hentry)
      cases hmapping : inner.isMapping with
      | true =>
          have hplain : ∀ name ∈ RedisSettings.fieldNames, inner.NamesPlainly name :=
            fun name hname => (hlacks name hname).namesPlainly
          have hbeneath := RedisSettings.beneath_of_lacks hlacks base.redis own.redis
          have hinner := eq_mapping_of_isMapping hmapping
          rw [hinner] at hread hplain hbeneath
          rw [Option.elim_some, hinner, RedisSettings.ofValue?_overlay_iff hbase.redis hread,
            hbeneath, and_iff_right hplain]
          rfl
      | false =>
          rw [RedisSettings.eq_default_of_lacks hlacks hread] at hread
          rw [Option.elim_some, overlay_of_top_not_isMapping hmapping, hread]
          simp [hmapping, eq_comm]

theorem Unset.ofValue?_overlay_iff {result : Settings} (h : Unset (mapping top))
    (hbase : base.FitsWords) (hown : ofValue? (mapping top) = some own) :
    ofValue? (base.toValue.overlay (mapping top)) = some result ↔
      (mapping top).NamesPlainly "redis" ∧ result = base.keptBeneath (mapping top) := by
  have hbelow : NamedByTexts base.toValue.entries := base.namedByTexts_toValue
  obtain ⟨hkeyPaths, hkeyPrefix, hhdrPrefix, hdepth⟩ := hasFields_toValue hbase
  obtain ⟨hkeyPathsOwn, hkeyPrefixOwn, hhdrPrefixOwn, hdepthOwn, _⟩ := ofValue?_eq_some_iff.1 hown
  have hlaid : base.toValue = mapping base.toValue.entries := rfl
  have hpaths := h.1 "key_paths" (by decide) (by decide)
  have hkey := h.1 "key_prefix" (by decide) (by decide)
  have hhdr := h.1 "hdr_prefix" (by decide) (by decide)
  have hlimit := h.1 "max_substitution_depth" (by decide) (by decide)
  rw [ofValue?_eq_some_iff, h.field?_redis_overlay_iff hbase hown, hlaid,
    hkeyPaths.overlay_iff hbelow hkeyPathsOwn, hkeyPrefix.overlay_iff hbelow hkeyPrefixOwn,
    hhdrPrefix.overlay_iff hbelow hhdrPrefixOwn, hdepth.overlay_iff hbelow hdepthOwn,
    hpaths.get?_eq_none, hkey.get?_eq_none, hhdr.get?_eq_none, hlimit.get?_eq_none,
    Settings.ext_iff]
  simp only [hpaths.namesPlainly, hkey.namesPlainly, hhdr.namesPlainly, hlimit.namesPlainly,
    true_and, Option.map_none, Option.getD_none, keptBeneath]
  constructor
  · rintro ⟨rpaths, rkey, rhdr, rdepth, hplain, rredis⟩
    exact ⟨hplain, rpaths, rkey, rhdr, rdepth, rredis⟩
  · rintro ⟨hplain, rpaths, rkey, rhdr, rdepth, rredis⟩
    exact ⟨rpaths, rkey, rhdr, rdepth, hplain, rredis⟩

end Overlay

end Settings

namespace SettingsFile

variable {tree : FileTree} {path : ByteArray} {file : SettingsFile} {base after : Settings}

/-- A mapping that sets nothing can be laid over a base unless it names the
server settings under a tag. -/
theorem applyTo_unset_mapping_iff (hunset : Settings.Unset file.document) (hbase : base.FitsWords)
    (hread : Settings.ofDocument file.document = .ok file.settings)
    (hmapping : file.document.isMapping = true) :
    file.applyTo base = .ok after ↔
      file.document.NamesPlainly "redis" ∧ after = base.keptBeneath file.document := by
  rw [applyTo, Settings.layer, Settings.ofDocument_ok_iff]
  rw [Settings.ofDocument_ok_iff] at hread
  have hentries := eq_mapping_of_isMapping hmapping
  rw [hentries] at hunset hread ⊢
  exact hunset.ofValue?_overlay_iff hbase hread

/-- What sets nothing and is no mapping makes the defaults of any base. -/
theorem applyTo_unset_whole (hunset : Settings.Unset file.document)
    (hread : Settings.ofDocument file.document = .ok file.settings)
    (hwhole : file.document.isMapping = false) : file.applyTo base = .ok {} := by
  rw [applyTo, Settings.layer, overlay_of_top_not_isMapping hwhole, hread]
  rw [Settings.ofDocument_ok_iff] at hread
  rw [hunset.eq_default hread]

end SettingsFile

namespace SettingsLoader

variable {tree : FileTree} {path : ByteArray} {file : SettingsFile} {base after : Settings}

/-- A settings file over a base, and nothing over the file. -/
def fileOver (path : ByteArray) (base : Settings) : SettingsLoader where
  base := base
  file := .path path

theorem load_fileOver (hload : SettingsFile.load tree path = .ok file)
    (hlaid : file.applyTo base = .ok after) (hvalid : after.validate = .ok ())
    (locations : List ByteArray) : (fileOver path base).load tree locations = .ok after := by
  have hread : (fileOver path base).readFile tree locations = .ok (some file) :=
    map_eq_ok_iff.2 ⟨file, hload, rfl⟩
  rw [load_ok_iff]
  exact ⟨after, (withFile_of_readFile hread).trans hlaid, rfl, hvalid⟩

/-- A file that sets nothing keeps the base if it is a mapping, with a mapping
for the server settings if they are named, and then loading gives a usable base
back.  What is no mapping makes defaults of what it is laid over, and the name
of the server settings under a tag cannot be laid over them. -/
theorem load_keeps_base_of_unset (hload : SettingsFile.load tree path = .ok file)
    (hunset : Settings.Unset file.document) (hbase : base.FitsWords)
    (locations : List ByteArray) :
    (file.isMapping = true → file.document.NamesPlainly "redis" →
      file.applyTo base = .ok base ∧
        (base.validate = .ok () → (fileOver path base).load tree locations = .ok base)) ∧
    (file.document.isMapping = true → file.isMapping = false →
      file.document.NamesPlainly "redis" →
        file.applyTo base = .ok { base with redis := {} } ∧
          (base.validate = .ok () →
            (fileOver path base).load tree locations = .ok { base with redis := {} })) ∧
    (file.document.isMapping = false →
      file.applyTo base = .ok {} ∧ (fileOver path base).load tree locations = .ok {}) ∧
    (¬ file.document.NamesPlainly "redis" →
      file.applyTo base = .error Settings.unreadableDocument) := by
  have hread := SettingsFile.ofDocument_of_load hload
  refine ⟨?mapping, ?servers, ?whole, ?tagged⟩
  case mapping =>
    intro hmapping hplain
    obtain ⟨hdocument, hservers⟩ := Bool.and_eq_true_iff.1 hmapping
    have hkept : base = base.keptBeneath file.document := by
      rw [Settings.keptBeneath, if_pos hservers]
    have hlaid : file.applyTo base = .ok base :=
      (SettingsFile.applyTo_unset_mapping_iff hunset hbase hread hdocument).2 ⟨hplain, hkept⟩
    exact ⟨hlaid, fun hvalid => load_fileOver hload hlaid hvalid locations⟩
  case servers =>
    intro hdocument hmapping hplain
    have hservers : ¬ (file.document.get? "redis").all isMapping = true := by
      rw [SettingsFile.isMapping, hdocument, Bool.true_and] at hmapping
      rw [hmapping]
      exact Bool.false_ne_true
    have hkept : { base with redis := {} } = base.keptBeneath file.document := by
      rw [Settings.keptBeneath, if_neg hservers]
    have hlaid : file.applyTo base = .ok { base with redis := {} } :=
      (SettingsFile.applyTo_unset_mapping_iff hunset hbase hread hdocument).2 ⟨hplain, hkept⟩
    refine ⟨hlaid, fun hvalid => load_fileOver hload hlaid ?_ locations⟩
    have hdepth := (Settings.validate_ok_iff.1 hvalid).1
    have hdefaults : 0 < ({} : RedisSettings).maxActive ∧
        ({} : RedisSettings).maxIdle ≤ ({} : RedisSettings).maxActive := by decide
    exact Settings.validate_ok_iff.2 ⟨hdepth, hdefaults⟩
  case whole =>
    intro hwhole
    have hlaid : file.applyTo base = .ok {} := SettingsFile.applyTo_unset_whole hunset hread hwhole
    exact ⟨hlaid, load_fileOver hload hlaid rfl locations⟩
  case tagged =>
    intro htagged
    have hdocument : file.document.isMapping = true :=
      eq_true_of_ne_false fun hwhole => htagged (namesPlainly_of_not_isMapping hwhole)
    apply Settings.layer_eq_error
    intro after hlaid
    exact htagged
      ((SettingsFile.applyTo_unset_mapping_iff hunset hbase hread hdocument).1 hlaid).1

/-- Settings that are usable, and are not the defaults. -/
def ownPrefix : Settings := { keyPrefix := "base:", redis := { url := "redis://base:6379" } }

theorem ownPrefix_fitsWords : ownPrefix.FitsWords :=
  ⟨by decide, ⟨by decide, by decide, nofun, by decide, by decide⟩⟩

/-- A comment, a name that means nothing here, and server settings that are empty. -/
def unsetText : String := "# later\nowner: ops\nredis: \x7b\x7d\n"

theorem load_keeps_base_of_unset_comments :
    (fileOver "confmgr.yaml".toUTF8 ownPrefix).load (.ofFile unsetText) [] = .ok ownPrefix := by
  obtain ⟨file, hload, hcheck⟩ := SettingsFile.exists_load_ofFile unsetText
    (fun file => file.isMapping && decide (Settings.Unset file.document ∧
      file.document.NamesPlainly "redis"))
    (by decide +kernel) (by decide +kernel)
  obtain ⟨hmapping, hdecided⟩ := Bool.and_eq_true_iff.1 hcheck
  obtain ⟨hunset, hplain⟩ := of_decide_eq_true hdecided
  have hkept := (load_keeps_base_of_unset hload hunset ownPrefix_fitsWords []).1 hmapping hplain
  exact hkept.2 rfl

/-- A document that is null sets nothing, and still nothing of the base is left. -/
theorem load_forgets_base_beneath_null :
    (∃ file, SettingsFile.load (.ofFile "~\n") "confmgr.yaml".toUTF8 = .ok file ∧
      Settings.Unset file.document ∧ file.applyTo ownPrefix = .ok {} ∧
      (fileOver "confmgr.yaml".toUTF8 ownPrefix).load (.ofFile "~\n") [] = .ok {}) ∧
    ownPrefix.validate = .ok () ∧ ownPrefix ≠ {} := by
  refine ⟨?_, rfl, by decide⟩
  obtain ⟨file, hload, hcheck⟩ := SettingsFile.exists_load_ofFile "~\n"
    (fun file => !file.document.isMapping && decide (Settings.Unset file.document))
    (by decide +kernel) (by decide +kernel)
  obtain ⟨hwhole, hdecided⟩ := Bool.and_eq_true_iff.1 hcheck
  have hunset := of_decide_eq_true hdecided
  have hread := SettingsFile.ofDocument_of_load hload
  have hlaid : file.applyTo ownPrefix = .ok {} :=
    SettingsFile.applyTo_unset_whole hunset hread (by simpa using hwhole)
  exact ⟨file, hload, hunset, hlaid, load_fileOver hload hlaid rfl []⟩

end SettingsLoader

end LayeredConfig
