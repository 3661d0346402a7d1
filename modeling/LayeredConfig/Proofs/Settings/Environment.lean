/-
Overrides from a process environment.  Seven of its variables count, those that are
named after a setting behind the prefix, and each of them only as long as its value is
a text that is not too long.  Environments that agree on these seven override settings
alike, whatever else they hold and in whatever order.
-/
import LayeredConfig.Bytes
import LayeredConfig.Proofs.Listing
import LayeredConfig.Proofs.Settings.Overridden

namespace LayeredConfig

/-- Where every key stands once, the entry of a key is the one that is found. -/
theorem find?_key_eq_some_iff {α β : Type} [DecidableEq α] {entries : List (α × β)}
    (hdistinct : (entries.map Prod.fst).Nodup) {key : α} {entry : α × β} :
    (entries.find? fun entry => entry.1 = key) = some entry ↔
      entry ∈ entries ∧ entry.1 = key := by
  constructor
  · intro h
    exact ⟨List.mem_of_find?_eq_some h, by simpa using List.find?_some h⟩
  · rintro ⟨hmem, hkey⟩
    have hsome : (entries.find? fun entry => entry.1 = key).isSome = true :=
      List.find?_isSome.2 ⟨entry, hmem, decide_eq_true hkey⟩
    obtain ⟨found, hfound⟩ := Option.isSome_iff_exists.1 hsome
    have hfoundKey : found.1 = key := by simpa using List.find?_some hfound
    have hsame : found = entry :=
      List.inj_on_of_nodup_map hdistinct (List.mem_of_find?_eq_some hfound) hmem
        (hfoundKey.trans hkey.symm)
    rw [hfound, hsame]

namespace Overrides

variable {marker : String} {environment other : List (ByteArray × ByteArray)}

/-- The value of a variable as far as it counts: a variable whose value is no text, or
is too long, is as good as unset. -/
def readable? (environment : List (ByteArray × ByteArray)) (name : String) : Option String :=
  (environment.find? fun entry => entry.1 = name.toUTF8).bind fun entry =>
    if entry.2.size ≤ valueLimit then String.fromUTF8? entry.2 else none

theorem readable?_eq_some_iff (hdistinct : (environment.map Prod.fst).Nodup)
    {name raw : String} :
    readable? environment name = some raw ↔
      (name.toUTF8, raw.toUTF8) ∈ environment ∧ raw.toUTF8.size ≤ valueLimit := by
  simp only [readable?, Option.bind_eq_some_iff, find?_key_eq_some_iff hdistinct,
    Option.ite_none_right_eq_some, Text.fromUTF8?_eq_some_iff]
  constructor
  · rintro ⟨⟨_, _⟩, ⟨hmem, rfl⟩, hsize, rfl⟩
    exact ⟨hmem, hsize⟩
  · rintro ⟨hmem, hsize⟩
    exact ⟨_, ⟨hmem, rfl⟩, hsize, rfl⟩

theorem select?_eq_some_iff {entry : ByteArray × ByteArray} {bare raw : String} :
    select? marker entry = some (bare, raw) ↔
      entry = ((marker ++ bare).toUTF8, raw.toUTF8) ∧ raw.toUTF8.size ≤ valueLimit := by
  obtain ⟨name, value⟩ := entry
  simp only [select?, Option.bind_eq_bind, Option.bind_none, Option.ite_none_left_eq_some,
    Option.bind_eq_some_iff, Text.fromUTF8?_eq_some_iff, List.isPrefixOf?_eq_some_iff_append_eq,
    Option.pure_def, Option.some.injEq, Prod.mk.injEq, Nat.not_lt]
  constructor
  · rintro ⟨text, rfl, rest, hrest, hsize, _, rfl, rfl, rfl⟩
    have htext : text = marker ++ String.ofList rest := by
      rw [← String.toList_inj, String.toList_append, String.toList_ofList, hrest]
    exact ⟨⟨by rw [htext], rfl⟩, hsize⟩
  · rintro ⟨⟨rfl, rfl⟩, hsize⟩
    exact ⟨_, rfl, bare.toList, String.toList_append.symm, hsize, raw, rfl,
      String.ofList_toList, rfl⟩

/-- Behind one prefix different variables have different bare names. -/
theorem nodup_selected (hdistinct : (environment.map Prod.fst).Nodup) :
    ((environment.filterMap (select? marker)).map Prod.fst).Nodup := by
  rw [List.nodup_iff_pairwise_ne, List.pairwise_map] at hdistinct ⊢
  rw [List.pairwise_filterMap]
  refine hdistinct.imp fun {first second} hne pair hfirst later hsecond hbare => ?_
  have hname := (select?_eq_some_iff.1 hfirst).1
  have hlater := (select?_eq_some_iff.1 hsecond).1
  exact hne (by rw [hname, hlater, hbare])

/-- A setting is overridden with the value of its variable, as far as that counts. -/
theorem value?_ofEnvironment (hdistinct : (environment.map Prod.fst).Nodup)
    (setting : Overridable) :
    (ofEnvironment marker environment).value? setting =
      readable? environment (marker ++ setting.name) := by
  ext raw
  rw [value?, ofEnvironment, NameMap.get?_ofList_eq_some_iff (nodup_selected hdistinct),
    readable?_eq_some_iff hdistinct, List.mem_filterMap]
  constructor
  · rintro ⟨entry, hentry, hselected⟩
    obtain ⟨rfl, hsize⟩ := select?_eq_some_iff.1 hselected
    exact ⟨hentry, hsize⟩
  · rintro ⟨hentry, hsize⟩
    exact ⟨_, hentry, select?_eq_some_iff.2 ⟨rfl, hsize⟩⟩

/-- Overrides depend on the prefix and on the values of the settings only. -/
theorem apply_congr {o o' : Overrides} (hmarker : o.marker = o'.marker)
    (hvalue : ∀ setting, o.value? setting = o'.value? setting) : o.apply = o'.apply := by
  have hone : o.applyOne = o'.applyOne := by
    funext setting
    have hraw : o.values.get? setting.name = o'.values.get? setting.name := hvalue setting
    simp only [applyOne, notANumber, hraw, hmarker]
  rw [apply, apply, hone]

/-- Environments in which each variable stands once and in which the variables of the
seven settings have the same values, as far as these count, override settings alike:
with the same result, and with the same settings left.  It is these values that
override the settings. -/
theorem outcome_apply_of_agree (marker : String) (settings : Settings)
    (hdistinct : (environment.map Prod.fst).Nodup) (hother : (other.map Prod.fst).Nodup)
    (hagree : ∀ setting : Overridable, readable? environment (marker ++ setting.name) =
      readable? other (marker ++ setting.name)) :
    (ofEnvironment marker environment).apply.outcome settings =
        (ofEnvironment marker other).apply.outcome settings ∧
      ∀ setting, (ofEnvironment marker environment).value? setting =
        readable? environment (marker ++ setting.name) := by
  have hvalue : ∀ setting, (ofEnvironment marker environment).value? setting =
      (ofEnvironment marker other).value? setting := by
    intro setting
    rw [value?_ofEnvironment hdistinct, value?_ofEnvironment hother, hagree]
  have happly : (ofEnvironment marker environment).apply = (ofEnvironment marker other).apply :=
    apply_congr rfl hvalue
  rw [happly]
  exact ⟨rfl, value?_ofEnvironment hdistinct⟩

/-- Bytes that are no text. -/
def brokenText : ByteArray := ⟨#[0x66, 0x6F, 0x80]⟩

/-- An environment with names that repeat or extend the prefix, or lack it, and with a
name and a value that are no texts. -/
def crowdedEnvironment : List (ByteArray × ByteArray) :=
  [("CONFMGR_CONFMGR_REDIS_URL".toUTF8, "redis://nested".toUTF8),
    ("CONFMGR_KEY_PREFIX".toUTF8, "ok:".toUTF8),
    ("CONFMGR_HDR_PREFIX".toUTF8, brokenText),
    (brokenText, "ignored".toUTF8),
    ("KEY_PATHS".toUTF8, "a,b".toUTF8),
    ("CONFMGR_".toUTF8, "".toUTF8),
    ("CONFMGR_REDIS_MAX_IDLE".toUTF8, "many".toUTF8),
    ("CONFMGR_REDIS_MAX_IDLES".toUTF8, "3".toUTF8)]

/-- What counts of it, in another order. -/
def sparseEnvironment : List (ByteArray × ByteArray) :=
  [("CONFMGR_REDIS_MAX_IDLE".toUTF8, "many".toUTF8),
    ("CONFMGR_KEY_PREFIX".toUTF8, "ok:".toUTF8)]

/-- Overriding stops at the same value in both, with the same setting in place. -/
theorem outcome_apply_of_agree_crowded :
    (crowdedEnvironment.map Prod.fst).Nodup ∧ (sparseEnvironment.map Prod.fst).Nodup ∧
      (∀ setting : Overridable,
        readable? crowdedEnvironment (defaultMarker ++ setting.name) =
          readable? sparseEnvironment (defaultMarker ++ setting.name)) ∧
      (ofEnvironment defaultMarker crowdedEnvironment).apply.outcome {} =
        (ofEnvironment defaultMarker sparseEnvironment).apply.outcome {} ∧
      (ofEnvironment defaultMarker sparseEnvironment).apply.outcome {} =
        (.error (.invalidSettings "CONFMGR_REDIS_MAX_IDLE is not a valid number: 'many'"),
          { keyPrefix := "ok:" }) := by
  have hdistinct : (crowdedEnvironment.map Prod.fst).Nodup := by decide +kernel
  have hother : (sparseEnvironment.map Prod.fst).Nodup := by decide +kernel
  have hagree : ∀ setting : Overridable,
      readable? crowdedEnvironment (defaultMarker ++ setting.name) =
        readable? sparseEnvironment (defaultMarker ++ setting.name) := by
    intro setting
    cases setting <;> decide +kernel
  exact ⟨hdistinct, hother, hagree,
    (outcome_apply_of_agree defaultMarker {} hdistinct hother hagree).1, by decide +kernel⟩

end Overrides

end LayeredConfig
