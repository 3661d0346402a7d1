/-
Settings with a document laid over them.  Settings are written as a mapping
with every field, the document is laid over it, and the result is read again.
A field that the document names is read as the document alone gives it, and any
other one is read as it was written.
-/
import LayeredConfig.Proofs.Settings.Overlay

namespace LayeredConfig

open Yaml Yaml.Value

attribute [ext] RedisSettings Settings

namespace RedisSettings

/-- Does every number fit a 64-bit word? -/
structure FitsWords (settings : RedisSettings) : Prop where
  maxIdle : settings.maxIdle ≤ Text.maxWord
  maxActive : settings.maxActive ≤ Text.maxWord
  waitTimeoutMs : ∀ n ∈ settings.waitTimeoutMs, n ≤ Text.maxWord
  idleTimeoutSecs : settings.idleTimeoutSecs ≤ Text.maxWord
  connectTimeoutMs : settings.connectTimeoutMs ≤ Text.maxWord

theorem default_fitsWords : ({} : RedisSettings).FitsWords :=
  ⟨by decide, by decide, nofun, by decide, by decide⟩

def fieldNames : List String :=
  ["url", "max_idle", "max_active", "wait", "wait_timeout_ms", "idle_timeout_secs",
    "connect_timeout_ms"]

/-- Settings are read field by field. -/
theorem ofValue?_eq_some_iff {value : Value} {settings : RedisSettings} :
    ofValue? value = some settings ↔
      value.field? "url" text? ({} : RedisSettings).url = some settings.url ∧
      value.field? "max_idle" word? ({} : RedisSettings).maxIdle = some settings.maxIdle ∧
      value.field? "max_active" word? ({} : RedisSettings).maxActive = some settings.maxActive ∧
      value.field? "wait" bool? ({} : RedisSettings).wait = some settings.wait ∧
      value.field? "wait_timeout_ms" optionalWord? ({} : RedisSettings).waitTimeoutMs =
        some settings.waitTimeoutMs ∧
      value.field? "idle_timeout_secs" word? ({} : RedisSettings).idleTimeoutSecs =
        some settings.idleTimeoutSecs ∧
      value.field? "connect_timeout_ms" word? ({} : RedisSettings).connectTimeoutMs =
        some settings.connectTimeoutMs := by
  cases hfields : value.fields? with
  | none => simp [ofValue?, field?, hfields]
  | some fields =>
      simp only [ofValue?, field?, hfields, Option.bind_some, Option.bind_eq_bind,
        Option.bind_eq_some_iff, Option.pure_def, Option.some.injEq]
      constructor
      · rintro ⟨url, hurl, maxIdle, hmaxIdle, maxActive, hmaxActive, wait, hwait, waitTimeoutMs,
          hwaitTimeoutMs, idleTimeoutSecs, hidleTimeoutSecs, connectTimeoutMs, hconnectTimeoutMs,
          rfl⟩
        exact ⟨hurl, hmaxIdle, hmaxActive, hwait, hwaitTimeoutMs, hidleTimeoutSecs,
          hconnectTimeoutMs⟩
      · rintro ⟨hurl, hmaxIdle, hmaxActive, hwait, hwaitTimeoutMs, hidleTimeoutSecs,
          hconnectTimeoutMs⟩
        exact ⟨_, hurl, _, hmaxIdle, _, hmaxActive, _, hwait, _, hwaitTimeoutMs, _,
          hidleTimeoutSecs, _, hconnectTimeoutMs, rfl⟩

/-- Settings as they are written have every field once, under a plain text. -/
theorem namedByTexts_toValue (settings : RedisSettings) :
    NamedByTexts settings.toValue.entries := by
  simp [NamedByTexts, toValue, entries]

theorem word?_integer {n : Nat} (h : n ≤ Text.maxWord) : (integer n).word? = some n := by
  have hrange : 0 ≤ (n : Int) ∧ (n : Int) ≤ Text.maxWord := by omega
  simp only [word?, untagged, if_pos hrange, Int.toNat_natCast]

/-- Settings as they are written have every field. -/
theorem hasFields_toValue {settings : RedisSettings} (h : settings.FitsWords) :
    HasField settings.toValue.entries "url" text? settings.url ∧
      HasField settings.toValue.entries "max_idle" word? settings.maxIdle ∧
      HasField settings.toValue.entries "max_active" word? settings.maxActive ∧
      HasField settings.toValue.entries "wait" bool? settings.wait ∧
      HasField settings.toValue.entries "wait_timeout_ms" optionalWord? settings.waitTimeoutMs ∧
      HasField settings.toValue.entries "idle_timeout_secs" word? settings.idleTimeoutSecs ∧
      HasField settings.toValue.entries "connect_timeout_ms" word?
        settings.connectTimeoutMs := by
  refine ⟨⟨_, rfl, rfl, rfl⟩, ⟨_, rfl, rfl, word?_integer h.maxIdle⟩,
    ⟨_, rfl, rfl, word?_integer h.maxActive⟩, ⟨_, rfl, rfl, rfl⟩, ?_,
    ⟨_, rfl, rfl, word?_integer h.idleTimeoutSecs⟩,
    ⟨_, rfl, rfl, word?_integer h.connectTimeoutMs⟩⟩
  refine ⟨_, rfl, ?_, ?_⟩
  · split <;> rfl
  · cases htimeout : settings.waitTimeoutMs with
    | none => rfl
    | some n =>
        have hword := word?_integer (h.waitTimeoutMs n htimeout)
        simp only [optionalWord?, hword]
        rfl

/-- Server settings beneath a document that was read as others: what it names
is taken from these. -/
def beneath (base : RedisSettings) (document : Value) (own : RedisSettings) : RedisSettings where
  url := ((document.get? "url").map fun _ => own.url).getD base.url
  maxIdle := ((document.get? "max_idle").map fun _ => own.maxIdle).getD base.maxIdle
  maxActive := ((document.get? "max_active").map fun _ => own.maxActive).getD base.maxActive
  wait := ((document.get? "wait").map fun _ => own.wait).getD base.wait
  waitTimeoutMs :=
    ((document.get? "wait_timeout_ms").map fun _ => own.waitTimeoutMs).getD base.waitTimeoutMs
  idleTimeoutSecs :=
    ((document.get? "idle_timeout_secs").map fun _ => own.idleTimeoutSecs).getD
      base.idleTimeoutSecs
  connectTimeoutMs :=
    ((document.get? "connect_timeout_ms").map fun _ => own.connectTimeoutMs).getD
      base.connectTimeoutMs

theorem ofValue?_overlay_iff {base own result : RedisSettings} {top : List (Value × Value)}
    (hbase : base.FitsWords) (hown : ofValue? (mapping top) = some own) :
    ofValue? (base.toValue.overlay (mapping top)) = some result ↔
      (∀ name ∈ fieldNames, (mapping top).NamesPlainly name) ∧
        result = base.beneath (mapping top) own := by
  have hbelow : NamedByTexts base.toValue.entries := base.namedByTexts_toValue
  obtain ⟨hurl, hmaxIdle, hmaxActive, hwait, hwaitTimeoutMs, hidleTimeoutSecs,
    hconnectTimeoutMs⟩ := hasFields_toValue hbase
  obtain ⟨hurlOwn, hmaxIdleOwn, hmaxActiveOwn, hwaitOwn, hwaitTimeoutMsOwn, hidleTimeoutSecsOwn,
    hconnectTimeoutMsOwn⟩ := ofValue?_eq_some_iff.1 hown
  have hlaid : base.toValue = mapping base.toValue.entries := rfl
  rw [hlaid, ofValue?_eq_some_iff, hurl.overlay_iff hbelow hurlOwn,
    hmaxIdle.overlay_iff hbelow hmaxIdleOwn, hmaxActive.overlay_iff hbelow hmaxActiveOwn,
    hwait.overlay_iff hbelow hwaitOwn, hwaitTimeoutMs.overlay_iff hbelow hwaitTimeoutMsOwn,
    hidleTimeoutSecs.overlay_iff hbelow hidleTimeoutSecsOwn,
    hconnectTimeoutMs.overlay_iff hbelow hconnectTimeoutMsOwn]
  simp only [fieldNames, List.forall_mem_cons]
  constructor
  · rintro ⟨⟨hurl, rurl⟩, ⟨hidle, ridle⟩, ⟨hactive, ractive⟩, ⟨hwait, rwait⟩,
      ⟨htimeout, rtimeout⟩, ⟨hsecs, rsecs⟩, hconnect, rconnect⟩
    refine ⟨⟨hurl, hidle, hactive, hwait, htimeout, hsecs, hconnect, nofun⟩, ?_⟩
    rw [RedisSettings.ext_iff]
    exact ⟨rurl, ridle, ractive, rwait, rtimeout, rsecs, rconnect⟩
  · rintro ⟨⟨hurl, hidle, hactive, hwait, htimeout, hsecs, hconnect, _⟩, rfl⟩
    exact ⟨⟨hurl, rfl⟩, ⟨hidle, rfl⟩, ⟨hactive, rfl⟩, ⟨hwait, rfl⟩, ⟨htimeout, rfl⟩,
      ⟨hsecs, rfl⟩, hconnect, rfl⟩

/-- Settings that are written can be read again. -/
theorem ofValue?_toValue {settings : RedisSettings} (h : settings.FitsWords) :
    ofValue? settings.toValue = some settings := by
  have hbelow : NamedByTexts settings.toValue.entries := settings.namedByTexts_toValue
  obtain ⟨hurl, hmaxIdle, hmaxActive, hwait, hwaitTimeoutMs, hidleTimeoutSecs,
    hconnectTimeoutMs⟩ := hasFields_toValue h
  exact ofValue?_eq_some_iff.2 ⟨hurl.field?_eq hbelow, hmaxIdle.field?_eq hbelow,
    hmaxActive.field?_eq hbelow, hwait.field?_eq hbelow, hwaitTimeoutMs.field?_eq hbelow,
    hidleTimeoutSecs.field?_eq hbelow, hconnectTimeoutMs.field?_eq hbelow⟩

end RedisSettings

namespace Settings

/-- Does every number fit a 64-bit word? -/
structure FitsWords (settings : Settings) : Prop where
  maxSubstitutionDepth : settings.maxSubstitutionDepth ≤ Text.maxWord
  redis : settings.redis.FitsWords

theorem default_fitsWords : ({} : Settings).FitsWords :=
  ⟨by decide, RedisSettings.default_fitsWords⟩

def fieldNames : List String :=
  ["key_paths", "key_prefix", "hdr_prefix", "max_substitution_depth", "redis"]

theorem ofValue?_eq_some_iff {value : Value} {settings : Settings} :
    ofValue? value = some settings ↔
      value.field? "key_paths" texts? ({} : Settings).keyPaths = some settings.keyPaths ∧
      value.field? "key_prefix" text? ({} : Settings).keyPrefix = some settings.keyPrefix ∧
      value.field? "hdr_prefix" text? ({} : Settings).hdrPrefix = some settings.hdrPrefix ∧
      value.field? "max_substitution_depth" word? ({} : Settings).maxSubstitutionDepth =
        some settings.maxSubstitutionDepth ∧
      value.field? "redis" RedisSettings.ofValue? ({} : Settings).redis =
        some settings.redis := by
  cases hfields : value.fields? with
  | none => simp [ofValue?, field?, hfields]
  | some fields =>
      simp only [ofValue?, field?, hfields, Option.bind_some, Option.bind_eq_bind,
        Option.bind_eq_some_iff, Option.pure_def, Option.some.injEq]
      constructor
      · rintro ⟨keyPaths, hkeyPaths, keyPrefix, hkeyPrefix, hdrPrefix, hhdrPrefix, depth, hdepth,
          redis, hredis, rfl⟩
        exact ⟨hkeyPaths, hkeyPrefix, hhdrPrefix, hdepth, hredis⟩
      · rintro ⟨hkeyPaths, hkeyPrefix, hhdrPrefix, hdepth, hredis⟩
        exact ⟨_, hkeyPaths, _, hkeyPrefix, _, hhdrPrefix, _, hdepth, _, hredis, rfl⟩

theorem namedByTexts_toValue (settings : Settings) : NamedByTexts settings.toValue.entries := by
  simp [NamedByTexts, toValue, entries]

theorem hasFields_toValue {settings : Settings} (h : settings.FitsWords) :
    HasField settings.toValue.entries "key_paths" texts? settings.keyPaths ∧
      HasField settings.toValue.entries "key_prefix" text? settings.keyPrefix ∧
      HasField settings.toValue.entries "hdr_prefix" text? settings.hdrPrefix ∧
      HasField settings.toValue.entries "max_substitution_depth" word?
        settings.maxSubstitutionDepth :=
  ⟨⟨_, rfl, rfl, mapM_map_eq_some text?_text settings.keyPaths⟩, ⟨_, rfl, rfl, rfl⟩, ⟨_, rfl, rfl, rfl⟩,
    ⟨_, rfl, rfl, RedisSettings.word?_integer h.maxSubstitutionDepth⟩⟩

/-- Settings beneath a document that was read as others: what it names is taken
from these, and inside the server settings it is so again. -/
def beneath (base : Settings) (document : Value) (own : Settings) : Settings where
  keyPaths := ((document.get? "key_paths").map fun _ => own.keyPaths).getD base.keyPaths
  keyPrefix := ((document.get? "key_prefix").map fun _ => own.keyPrefix).getD base.keyPrefix
  hdrPrefix := ((document.get? "hdr_prefix").map fun _ => own.hdrPrefix).getD base.hdrPrefix
  maxSubstitutionDepth :=
    ((document.get? "max_substitution_depth").map fun _ => own.maxSubstitutionDepth).getD
      base.maxSubstitutionDepth
  redis :=
    ((document.get? "redis").map fun inner => base.redis.beneath inner own.redis).getD base.redis

/-- Server settings are a mapping below, so they are merged field by field with
the mapping that a document has for them. -/
theorem field?_redis_overlay_iff {base own : Settings} {result : RedisSettings}
    {top : List (Value × Value)} (hbase : base.FitsWords)
    (hown : ofValue? (mapping top) = some own)
    (hmapping : ∀ inner, (mapping top).get? "redis" = some inner → inner.isMapping = true) :
    (base.toValue.overlay (mapping top)).field? "redis" RedisSettings.ofValue?
          ({} : Settings).redis = some result ↔
      ((mapping top).NamesPlainly "redis" ∧
        ∀ inner, (mapping top).get? "redis" = some inner →
          ∀ name ∈ RedisSettings.fieldNames, inner.NamesPlainly name) ∧
        result = (base.beneath (mapping top) own).redis := by
  obtain ⟨_, _, _, _, hredis⟩ := ofValue?_eq_some_iff.1 hown
  have hkept : entriesNamed "redis" base.toValue.entries =
      [(text "redis", base.redis.toValue)] := rfl
  have hlaid : base.toValue = mapping base.toValue.entries := rfl
  rw [hlaid, field?_overlay_iff base.namedByTexts_toValue hkept hredis, and_assoc, beneath]
  apply and_congr_right
  intro _
  cases hvalue : (mapping top).get? "redis" with
  | none => simp [RedisSettings.ofValue?_toValue hbase.redis, eq_comm]
  | some inner =>
      have hinner := eq_mapping_of_isMapping (hmapping inner hvalue)
      have hread := read?_of_get? hredis hvalue
      rw [hinner] at hread ⊢
      simp [RedisSettings.ofValue?_overlay_iff hbase.redis hread]

theorem ofValue?_overlay_iff {base own result : Settings} {top : List (Value × Value)}
    (hbase : base.FitsWords) (hown : ofValue? (mapping top) = some own)
    (hmapping : ∀ inner, (mapping top).get? "redis" = some inner → inner.isMapping = true) :
    ofValue? (base.toValue.overlay (mapping top)) = some result ↔
      ((∀ name ∈ fieldNames, (mapping top).NamesPlainly name) ∧
        ∀ inner, (mapping top).get? "redis" = some inner →
          ∀ name ∈ RedisSettings.fieldNames, inner.NamesPlainly name) ∧
        result = base.beneath (mapping top) own := by
  have hbelow : NamedByTexts base.toValue.entries := base.namedByTexts_toValue
  obtain ⟨hkeyPaths, hkeyPrefix, hhdrPrefix, hdepth⟩ := hasFields_toValue hbase
  obtain ⟨hkeyPathsOwn, hkeyPrefixOwn, hhdrPrefixOwn, hdepthOwn, _⟩ := ofValue?_eq_some_iff.1 hown
  have hlaid : base.toValue = mapping base.toValue.entries := rfl
  rw [ofValue?_eq_some_iff, field?_redis_overlay_iff hbase hown hmapping, hlaid,
    hkeyPaths.overlay_iff hbelow hkeyPathsOwn, hkeyPrefix.overlay_iff hbelow hkeyPrefixOwn,
    hhdrPrefix.overlay_iff hbelow hhdrPrefixOwn, hdepth.overlay_iff hbelow hdepthOwn]
  simp only [fieldNames, List.forall_mem_cons]
  constructor
  · rintro ⟨⟨hpaths, rpaths⟩, ⟨hkey, rkey⟩, ⟨hhdr, rhdr⟩, ⟨hdepth, rdepth⟩, ⟨hredis, hinner⟩,
      rredis⟩
    refine ⟨⟨⟨hpaths, hkey, hhdr, hdepth, hredis, nofun⟩, hinner⟩, ?_⟩
    rw [Settings.ext_iff]
    exact ⟨rpaths, rkey, rhdr, rdepth, rredis⟩
  · rintro ⟨⟨⟨hpaths, hkey, hhdr, hdepth, hredis, _⟩, hinner⟩, rfl⟩
    exact ⟨⟨hpaths, rfl⟩, ⟨hkey, rfl⟩, ⟨hhdr, rfl⟩, ⟨hdepth, rfl⟩, ⟨hredis, hinner⟩, rfl⟩

theorem ofDocument_ok_iff {document : Value} {settings : Settings} :
    ofDocument document = .ok settings ↔ ofValue? document = some settings := by
  rw [ofDocument]
  cases ofValue? document with
  | none => simp
  | some read => simp

/-- There is one way in which laying a document over settings fails. -/
theorem layer_eq_error {base : Settings} {document : Value}
    (h : ∀ after, base.layer document ≠ .ok after) :
    base.layer document = .error unreadableDocument := by
  rw [layer, ofDocument] at h ⊢
  cases hread : ofValue? (base.toValue.overlay document) with
  | none => rfl
  | some after =>
      rw [hread] at h
      exact absurd rfl (h after)

end Settings

end LayeredConfig
