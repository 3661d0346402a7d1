/-
Settings files without tags.  Such a file can be laid over any base, even if it
is null or has null in place of the server settings: what is no mapping takes
the place of what is beneath it, and was already read on its own when the file
was loaded.  Laid over the defaults it gives its own settings, and laid twice it
does no more than once.
-/
import LayeredConfig.Proofs.Settings.Unset

namespace LayeredConfig

open Yaml Yaml.Value

namespace Yaml.Value

mutual

/-- Is there a tag anywhere in a value? -/
def hasTag : Value → Bool
  | sequence items => itemsHaveTag items
  | mapping entries => entriesHaveTag entries
  | tagged _ _ => true
  | _ => false

def itemsHaveTag : List Value → Bool
  | [] => false
  | item :: rest => hasTag item || itemsHaveTag rest

/-- Is there a tag in a mapping, in a key or in a value? -/
def entriesHaveTag : List (Value × Value) → Bool
  | [] => false
  | (key, value) :: rest => hasTag key || hasTag value || entriesHaveTag rest

end

variable {document value : Value} {name : String}

theorem entriesHaveTag_eq_false_iff {entries : List (Value × Value)} :
    entriesHaveTag entries = false ↔
      ∀ entry ∈ entries, entry.1.hasTag = false ∧ entry.2.hasTag = false := by
  induction entries with
  | nil => simp [entriesHaveTag]
  | cons entry rest ih =>
      rw [entriesHaveTag, List.forall_mem_cons, Bool.or_eq_false_iff, Bool.or_eq_false_iff, ih]

theorem mapping_or_not_isMapping (value : Value) :
    (∃ top, value = mapping top) ∨ value.isMapping = false := by
  by_cases hmapping : value.isMapping = true
  · exact .inl ⟨_, eq_mapping_of_isMapping hmapping⟩
  · exact .inr (Bool.eq_false_iff.2 hmapping)

theorem entries_of_not_isMapping (h : value.isMapping = false) : value.entries = [] := by
  cases value with
  | mapping top => cases h
  | _ => rfl

theorem hasTag_of_mem_entries (h : document.hasTag = false) {entry : Value × Value}
    (hentry : entry ∈ document.entries) : entry.1.hasTag = false ∧ entry.2.hasTag = false := by
  rcases mapping_or_not_isMapping document with ⟨top, rfl⟩ | hwhole
  · rw [hasTag, entriesHaveTag_eq_false_iff] at h
    exact h entry hentry
  · rw [entries_of_not_isMapping hwhole] at hentry
    cases hentry

/-- Without a tag only a plain text is read as a name. -/
theorem eq_text_of_text? {key : Value} (h : key.hasTag = false) (hread : key.text? = some name) :
    key = text name := by
  cases key with
  | text s =>
      rw [text?_text, Option.some.injEq] at hread
      rw [hread]
  | tagged tag value => simp [hasTag] at h
  | _ => cases hread

theorem namesPlainly_of_hasTag (h : document.hasTag = false) (name : String) :
    document.NamesPlainly name :=
  fun _ hentry hread => eq_text_of_text? (hasTag_of_mem_entries h hentry).1 hread

theorem hasTag_of_get? (h : document.hasTag = false) (hvalue : document.get? name = some value) :
    value.hasTag = false := by
  obtain ⟨entry, hfound, rfl⟩ := Option.map_eq_some_iff.1 hvalue
  exact (hasTag_of_mem_entries h (List.mem_of_find?_eq_some hfound)).2

section Reading

variable {α : Type} {read? : Value → Option α} {default own : α} {top : List (Value × Value)}

/-- A field is its default, or some value is read as it. -/
theorem field?_default_or_read (hown : document.field? name read? default = some own) :
    own = default ∨ ∃ value, read? value = some own := by
  obtain ⟨fields, _, hfield⟩ := Option.bind_eq_some_iff.1 hown
  rw [readField] at hfield
  split at hfield
  · cases hfield
    exact .inl rfl
  · exact .inr ⟨_, hfield⟩
  · cases hfield

theorem eq_default_of_get? (hown : (mapping top).field? name read? default = some own)
    (hvalue : (mapping top).get? name = none) : own = default := by
  obtain ⟨fields, hfields, _⟩ := Option.bind_eq_some_iff.1 hown
  have hnamed : entriesNamed name top = [] := by
    rw [get?_mapping, Option.map_eq_none_iff, List.head?_eq_none_iff] at hvalue
    exact hvalue
  rw [field?_mapping (namedByTexts_of_fields? hfields), hnamed] at hown
  cases hown
  rfl

/-- A field that is laid over its default is the field itself. -/
theorem getD_default_of_field? (hown : (mapping top).field? name read? default = some own) :
    (((mapping top).get? name).map fun _ => own).getD default = own := by
  rcases hvalue : (mapping top).get? name with _ | value
  · exact (eq_default_of_get? hown hvalue).symm
  · rfl

/-- A field that is laid over what it has made is what it has made. -/
theorem getD_getD (given : Option α) (base : α) :
    given.getD (given.getD base) = given.getD base := by
  rcases given with _ | own
  · rfl
  · rfl

end Reading

theorem le_maxWord_of_word? {n : Nat} (h : value.word? = some n) : n ≤ Text.maxWord := by
  rw [word?] at h
  split at h
  · split at h
    · cases h
      omega
    · cases h
  · cases h

theorem le_maxWord_of_optionalWord? {given : Option Nat} (h : value.optionalWord? = some given) :
    ∀ n ∈ given, n ≤ Text.maxWord := by
  rw [optionalWord?.eq_def] at h
  split at h
  · cases h
    nofun
  · obtain ⟨n, hword, rfl⟩ := Option.map_eq_some_iff.1 h
    intro m hm
    cases hm
    exact le_maxWord_of_word? hword

theorem le_maxWord_of_field? {default n : Nat} (hdefault : default ≤ Text.maxWord)
    (hown : document.field? name word? default = some n) : n ≤ Text.maxWord := by
  rcases field?_default_or_read hown with rfl | ⟨value, hread⟩
  · exact hdefault
  · exact le_maxWord_of_word? hread

end Yaml.Value

namespace RedisSettings

variable {base own : RedisSettings} {value : Value}

/-- All numbers that are read fit. -/
theorem fitsWords_of_ofValue? (hown : ofValue? value = some own) : own.FitsWords := by
  obtain ⟨_, hmaxIdle, hmaxActive, _, hwaitTimeoutMs, hidleTimeoutSecs, hconnectTimeoutMs⟩ :=
    ofValue?_eq_some_iff.1 hown
  have hdefault := default_fitsWords
  have htimeout : ∀ n ∈ own.waitTimeoutMs, n ≤ Text.maxWord := by
    rcases field?_default_or_read hwaitTimeoutMs with habsent | ⟨given, hread⟩
    · rw [habsent]
      exact hdefault.waitTimeoutMs
    · exact le_maxWord_of_optionalWord? hread
  exact ⟨le_maxWord_of_field? hdefault.maxIdle hmaxIdle,
    le_maxWord_of_field? hdefault.maxActive hmaxActive, htimeout,
    le_maxWord_of_field? hdefault.idleTimeoutSecs hidleTimeoutSecs,
    le_maxWord_of_field? hdefault.connectTimeoutMs hconnectTimeoutMs⟩

/-- What a value makes of the server settings that it is laid over. -/
def laid (base : RedisSettings) (value : Value) (own : RedisSettings) : RedisSettings :=
  if value.isMapping then base.beneath value own else own

theorem laid_mapping (base : RedisSettings) (top : List (Value × Value)) (own : RedisSettings) :
    base.laid (mapping top) own = base.beneath (mapping top) own :=
  rfl

theorem laid_of_not_isMapping (h : value.isMapping = false) : base.laid value own = own := by
  rw [laid, h, if_neg Bool.false_ne_true]

theorem ofValue?_overlay (huntagged : value.hasTag = false) (hbase : base.FitsWords)
    (hown : ofValue? value = some own) :
    ofValue? (base.toValue.overlay value) = some (base.laid value own) := by
  rcases mapping_or_not_isMapping value with ⟨top, rfl⟩ | hwhole
  · exact (ofValue?_overlay_iff hbase hown).2
      ⟨fun name _ => namesPlainly_of_hasTag huntagged name, laid_mapping base top own⟩
  · rw [laid_of_not_isMapping hwhole, overlay_of_top_not_isMapping hwhole, hown]

theorem laid_default (hown : ofValue? value = some own) : laid {} value own = own := by
  rcases mapping_or_not_isMapping value with ⟨top, rfl⟩ | hwhole
  · obtain ⟨hurl, hmaxIdle, hmaxActive, hwait, hwaitTimeoutMs, hidleTimeoutSecs,
      hconnectTimeoutMs⟩ := ofValue?_eq_some_iff.1 hown
    rw [laid_mapping, RedisSettings.ext_iff]
    exact ⟨getD_default_of_field? hurl, getD_default_of_field? hmaxIdle,
      getD_default_of_field? hmaxActive, getD_default_of_field? hwait,
      getD_default_of_field? hwaitTimeoutMs, getD_default_of_field? hidleTimeoutSecs,
      getD_default_of_field? hconnectTimeoutMs⟩
  · exact laid_of_not_isMapping hwhole

theorem laid_laid (base : RedisSettings) (value : Value) (own : RedisSettings) :
    (base.laid value own).laid value own = base.laid value own := by
  rcases mapping_or_not_isMapping value with ⟨top, rfl⟩ | hwhole
  · simp only [laid_mapping, beneath, getD_getD]
  · simp only [laid_of_not_isMapping hwhole]

end RedisSettings

namespace Settings

variable {base own : Settings} {document : Value} {top : List (Value × Value)}

/-- All numbers that are read fit. -/
theorem fitsWords_of_ofValue? (hown : ofValue? document = some own) : own.FitsWords := by
  obtain ⟨_, _, _, hdepth, hredis⟩ := ofValue?_eq_some_iff.1 hown
  have hservers : own.redis.FitsWords := by
    rcases field?_default_or_read hredis with habsent | ⟨inner, hread⟩
    · rw [habsent]
      exact RedisSettings.default_fitsWords
    · exact RedisSettings.fitsWords_of_ofValue? hread
  exact ⟨le_maxWord_of_field? default_fitsWords.maxSubstitutionDepth hdepth, hservers⟩

/-- What a document without tags makes of the settings that it is laid over. -/
def laid (base : Settings) (document : Value) (own : Settings) : Settings :=
  if document.isMapping then
    { base.beneath document own with
      redis := (document.get? "redis").elim base.redis fun inner => base.redis.laid inner own.redis }
  else own

theorem laid_mapping (base : Settings) (top : List (Value × Value)) (own : Settings) :
    base.laid (mapping top) own =
      { base.beneath (mapping top) own with
        redis := ((mapping top).get? "redis").elim base.redis
          fun inner => base.redis.laid inner own.redis } :=
  rfl

theorem laid_of_not_isMapping (h : document.isMapping = false) : base.laid document own = own := by
  rw [laid, h, if_neg Bool.false_ne_true]

theorem field?_redis_overlay (huntagged : (mapping top).hasTag = false) (hbase : base.FitsWords)
    (hown : ofValue? (mapping top) = some own) :
    (base.toValue.overlay (mapping top)).field? "redis" RedisSettings.ofValue?
        ({} : Settings).redis =
      some (((mapping top).get? "redis").elim base.redis
        fun inner => base.redis.laid inner own.redis) := by
  obtain ⟨_, _, _, _, hredis⟩ := ofValue?_eq_some_iff.1 hown
  have hkept : entriesNamed "redis" base.toValue.entries =
      [(text "redis", base.redis.toValue)] := rfl
  have hlaid : base.toValue = mapping base.toValue.entries := rfl
  rw [hlaid, field?_overlay_iff base.namedByTexts_toValue hkept hredis]
  refine ⟨namesPlainly_of_hasTag huntagged "redis", ?_⟩
  rcases hvalue : (mapping top).get? "redis" with _ | inner
  · exact RedisSettings.ofValue?_toValue hbase.redis
  · exact RedisSettings.ofValue?_overlay (hasTag_of_get? huntagged hvalue) hbase.redis
      (read?_of_get? hredis hvalue)

theorem ofValue?_overlay (huntagged : document.hasTag = false) (hbase : base.FitsWords)
    (hown : ofValue? document = some own) :
    ofValue? (base.toValue.overlay document) = some (base.laid document own) := by
  rcases mapping_or_not_isMapping document with ⟨top, rfl⟩ | hwhole
  · have hplain : ∀ name, (mapping top).NamesPlainly name := namesPlainly_of_hasTag huntagged
    have hbelow : NamedByTexts base.toValue.entries := base.namedByTexts_toValue
    obtain ⟨hkeyPaths, hkeyPrefix, hhdrPrefix, hdepth⟩ := hasFields_toValue hbase
    obtain ⟨hkeyPathsOwn, hkeyPrefixOwn, hhdrPrefixOwn, hdepthOwn, _⟩ :=
      ofValue?_eq_some_iff.1 hown
    rw [laid_mapping]
    exact ofValue?_eq_some_iff.2
      ⟨(hkeyPaths.overlay_iff hbelow hkeyPathsOwn).2 ⟨hplain _, rfl⟩,
        (hkeyPrefix.overlay_iff hbelow hkeyPrefixOwn).2 ⟨hplain _, rfl⟩,
        (hhdrPrefix.overlay_iff hbelow hhdrPrefixOwn).2 ⟨hplain _, rfl⟩,
        (hdepth.overlay_iff hbelow hdepthOwn).2 ⟨hplain _, rfl⟩,
        field?_redis_overlay huntagged hbase hown⟩
  · rw [laid_of_not_isMapping hwhole, overlay_of_top_not_isMapping hwhole, hown]

/-- Over the defaults a document gives what it is read as on its own. -/
theorem laid_default (hown : ofValue? document = some own) : laid {} document own = own := by
  rcases mapping_or_not_isMapping document with ⟨top, rfl⟩ | hwhole
  · obtain ⟨hkeyPaths, hkeyPrefix, hhdrPrefix, hdepth, hredis⟩ := ofValue?_eq_some_iff.1 hown
    rw [laid_mapping, Settings.ext_iff]
    refine ⟨getD_default_of_field? hkeyPaths, getD_default_of_field? hkeyPrefix,
      getD_default_of_field? hhdrPrefix, getD_default_of_field? hdepth, ?_⟩
    rcases hvalue : (mapping top).get? "redis" with _ | inner
    · exact (eq_default_of_get? hredis hvalue).symm
    · exact RedisSettings.laid_default (read?_of_get? hredis hvalue)
  · exact laid_of_not_isMapping hwhole

theorem laid_laid (base : Settings) (document : Value) (own : Settings) :
    (base.laid document own).laid document own = base.laid document own := by
  rcases mapping_or_not_isMapping document with ⟨top, rfl⟩ | hwhole
  · simp only [laid_mapping, beneath, getD_getD]
    rcases (mapping top).get? "redis" with _ | inner
    · rfl
    · simp only [Option.elim_some, RedisSettings.laid_laid]
  · simp only [laid_of_not_isMapping hwhole]

end Settings

namespace SettingsFile

variable {tree : FileTree} {path : ByteArray} {file : SettingsFile} {base : Settings}

theorem applyTo_eq_laid (hload : load tree path = .ok file)
    (huntagged : file.document.hasTag = false) (hbase : base.FitsWords) :
    file.applyTo base = .ok (base.laid file.document file.settings) := by
  have hown := Settings.ofDocument_ok_iff.1 (ofDocument_of_load hload)
  exact Settings.ofDocument_ok_iff.2 (Settings.ofValue?_overlay huntagged hbase hown)

/-- A file without tags can be laid over any base: what it names is taken from
its own settings and the rest from the base.  Over the defaults it gives its own
settings, and over what it has made of a base it changes nothing. -/
theorem applyTo_untagged (hload : load tree path = .ok file)
    (huntagged : file.document.hasTag = false) (hbase : base.FitsWords) :
    let after := base.laid file.document file.settings
    file.applyTo base = .ok after ∧ file.applyTo {} = .ok file.settings ∧
      file.applyTo after = .ok after := by
  intro after
  have hown := Settings.ofDocument_ok_iff.1 (ofDocument_of_load hload)
  have hafter : after.FitsWords :=
    Settings.fitsWords_of_ofValue? (Settings.ofValue?_overlay huntagged hbase hown)
  refine ⟨applyTo_eq_laid hload huntagged hbase, ?_, ?_⟩
  · rw [applyTo_eq_laid hload huntagged Settings.default_fitsWords, Settings.laid_default hown]
  · rw [applyTo_eq_laid hload huntagged hafter, Settings.laid_laid]

/-- Null for the paths and for the server settings, and one name that is set. -/
def nullsText : String := "key_paths: ~\nmax_substitution_depth: 4\nredis:\n"

/-- Nothing is left of the paths and of the server settings of the base. -/
theorem applyTo_untagged_nulls :
    let after : Settings := { keyPaths := [], keyPrefix := "base:", maxSubstitutionDepth := 4 }
    ∃ file, load (.ofFile nullsText) "confmgr.yaml".toUTF8 = .ok file ∧
      file.document.hasTag = false ∧ file.applyTo SettingsLoader.ownPrefix = .ok after ∧
      file.applyTo {} = .ok file.settings ∧ file.applyTo after = .ok after := by
  intro after
  obtain ⟨file, hload, hcheck⟩ := exists_load_ofFile nullsText
    (fun file => !file.document.hasTag &&
      decide (SettingsLoader.ownPrefix.laid file.document file.settings = after))
    (by decide +kernel) (by decide +kernel)
  obtain ⟨hcheckedTags, hcheckedLaid⟩ := Bool.and_eq_true_iff.1 hcheck
  have huntagged : file.document.hasTag = false := by simpa using hcheckedTags
  have hafter : SettingsLoader.ownPrefix.laid file.document file.settings = after :=
    of_decide_eq_true hcheckedLaid
  have hlaid := applyTo_untagged hload huntagged SettingsLoader.ownPrefix_fitsWords
  rw [hafter] at hlaid
  exact ⟨file, hload, huntagged, hlaid⟩

end SettingsFile

end LayeredConfig
