/-
Settings with single ones overridden by values.  The values are put in place
one after another, which goes through just if all that should be numbers are,
and then the order makes no difference to the result.
-/
import LayeredConfig.Proofs.Outcome
import LayeredConfig.Settings.Overrides

namespace LayeredConfig

open LayeredConfig.Action

namespace Overridable

/-- Is a setting overridden by a number? -/
def isNumber : Overridable → Bool
  | maxSubstitutionDepth | redisMaxIdle | redisMaxActive => true
  | keyPaths | keyPrefix | hdrPrefix | redisUrl => false

/-- The number of an override, or the old one if there is no override. -/
def numberOr? (raw? : Option String) (old : Nat) : Option Nat :=
  raw?.elim (some old) number?

theorem numberOr?_eq_some_iff {raw? : Option String} {old n : Nat} :
    numberOr? raw? old = some n ↔
      (∀ raw, raw? = some raw → (number? raw).isSome = true) ∧
        n = (raw?.bind number?).getD old := by
  cases raw? with
  | none =>
      constructor
      · rintro ⟨⟩
        exact ⟨nofun, rfl⟩
      · rintro ⟨_, rfl⟩
        rfl
  | some raw =>
      cases hnumber : number? raw with
      | none => simp [numberOr?, hnumber]
      | some read =>
          simp only [numberOr?, hnumber, Option.elim_some, Option.bind_some, Option.getD_some,
            Option.some.injEq, forall_eq', Option.isSome_some, true_and]
          exact eq_comm

/-- Can every value for a number be read as one? -/
def NumbersReadable (value? : Overridable → Option String) : Prop :=
  ∀ setting raw, setting.isNumber = true → value? setting = some raw →
    (number? raw).isSome = true

/-- There are three values that should be numbers. -/
theorem numbersReadable_iff {value? : Overridable → Option String} :
    NumbersReadable value? ↔
      (∀ raw, value? .maxSubstitutionDepth = some raw → (number? raw).isSome = true) ∧
      (∀ raw, value? .redisMaxIdle = some raw → (number? raw).isSome = true) ∧
      ∀ raw, value? .redisMaxActive = some raw → (number? raw).isSome = true := by
  constructor
  · intro h
    exact ⟨fun raw => h .maxSubstitutionDepth raw rfl, fun raw => h .redisMaxIdle raw rfl,
      fun raw => h .redisMaxActive raw rfl⟩
  · rintro ⟨hdepth, hidle, hactive⟩ setting raw hnumber hvalue
    cases setting with
    | maxSubstitutionDepth => exact hdepth raw hvalue
    | redisMaxIdle => exact hidle raw hvalue
    | redisMaxActive => exact hactive raw hvalue
    | _ => cases hnumber

instance (value? : Overridable → Option String) : Decidable (NumbersReadable value?) :=
  decidable_of_iff (∀ setting ∈ inOrder, setting.isNumber = true →
      (value? setting).all (fun raw => (number? raw).isSome) = true) <| by
    constructor
    · intro h setting raw hnumber hvalue
      have hall := h setting (by cases setting <;> decide) hnumber
      rw [hvalue] at hall
      exact hall
    · intro h setting _ hnumber
      cases hvalue : value? setting with
      | none => rfl
      | some raw => exact h setting raw hnumber hvalue

end Overridable

namespace Settings

open Overridable

/-- Settings with one of them overridden, if there is a value for it. -/
def override? (value? : Overridable → Option String) (settings : Settings)
    (setting : Overridable) : Option Settings :=
  (value? setting).elim (some settings) fun raw => setting.assign? settings raw

/-- Settings with all values in place that there are. -/
def overriddenBy (settings : Settings) (value? : Overridable → Option String) : Settings where
  keyPaths := ((value? .keyPaths).map pathList).getD settings.keyPaths
  keyPrefix := (value? .keyPrefix).getD settings.keyPrefix
  hdrPrefix := (value? .hdrPrefix).getD settings.hdrPrefix
  maxSubstitutionDepth :=
    ((value? .maxSubstitutionDepth).bind number?).getD settings.maxSubstitutionDepth
  redis := { settings.redis with
    url := (value? .redisUrl).getD settings.redis.url
    maxIdle := ((value? .redisMaxIdle).bind number?).getD settings.redis.maxIdle
    maxActive := ((value? .redisMaxActive).bind number?).getD settings.redis.maxActive }

section Override

variable (value? : Overridable → Option String) (settings : Settings)

theorem override?_keyPaths : override? value? settings .keyPaths =
    some { settings with
      keyPaths := ((value? .keyPaths).map pathList).getD settings.keyPaths } := by
  rw [override?]
  cases value? .keyPaths <;> rfl

theorem override?_keyPrefix : override? value? settings .keyPrefix =
    some { settings with keyPrefix := (value? .keyPrefix).getD settings.keyPrefix } := by
  rw [override?]
  cases value? .keyPrefix <;> rfl

theorem override?_hdrPrefix : override? value? settings .hdrPrefix =
    some { settings with hdrPrefix := (value? .hdrPrefix).getD settings.hdrPrefix } := by
  rw [override?]
  cases value? .hdrPrefix <;> rfl

theorem override?_redisUrl : override? value? settings .redisUrl =
    some { settings with redis := { settings.redis with
      url := (value? .redisUrl).getD settings.redis.url } } := by
  rw [override?]
  cases value? .redisUrl <;> rfl

theorem override?_maxSubstitutionDepth : override? value? settings .maxSubstitutionDepth =
    (numberOr? (value? .maxSubstitutionDepth) settings.maxSubstitutionDepth).map fun n =>
      { settings with maxSubstitutionDepth := n } := by
  rw [override?]
  cases value? .maxSubstitutionDepth <;> rfl

theorem override?_redisMaxIdle : override? value? settings .redisMaxIdle =
    (numberOr? (value? .redisMaxIdle) settings.redis.maxIdle).map fun n =>
      { settings with redis := { settings.redis with maxIdle := n } } := by
  rw [override?]
  cases value? .redisMaxIdle <;> rfl

theorem override?_redisMaxActive : override? value? settings .redisMaxActive =
    (numberOr? (value? .redisMaxActive) settings.redis.maxActive).map fun n =>
      { settings with redis := { settings.redis with maxActive := n } } := by
  rw [override?]
  cases value? .redisMaxActive <;> rfl

end Override

theorem foldlM_override?_iff {value? : Overridable → Option String} {settings after : Settings} :
    inOrder.foldlM (override? value?) settings = some after ↔
      NumbersReadable value? ∧ after = settings.overriddenBy value? := by
  simp only [inOrder, List.foldlM_cons, List.foldlM_nil, override?_keyPaths, override?_keyPrefix,
    override?_hdrPrefix, override?_redisUrl, override?_maxSubstitutionDepth,
    override?_redisMaxIdle, override?_redisMaxActive, Option.bind_eq_bind, Option.bind_some,
    Option.bind_eq_some_iff, Option.map_eq_some_iff, numberOr?_eq_some_iff, numbersReadable_iff]
  constructor
  · rintro ⟨_, ⟨_, ⟨hdepth, rfl⟩, rfl⟩, _, ⟨_, ⟨hidle, rfl⟩, rfl⟩, _, ⟨_, ⟨hactive, rfl⟩, rfl⟩,
      hafter⟩
    exact ⟨⟨hdepth, hidle, hactive⟩, (Option.some.inj hafter).symm⟩
  · rintro ⟨⟨hdepth, hidle, hactive⟩, rfl⟩
    exact ⟨_, ⟨_, ⟨hdepth, rfl⟩, rfl⟩, _, ⟨_, ⟨hidle, rfl⟩, rfl⟩, _, ⟨_, ⟨hactive, rfl⟩, rfl⟩, rfl⟩

end Settings

namespace Overrides

variable {o : Overrides} {settings after : Settings}

/-- The value that a setting is overridden with. -/
def value? (o : Overrides) (setting : Overridable) : Option String :=
  o.values.get? setting.name

/-- An override that cannot be read leaves the settings as they are. -/
theorem outcome_applyOne (o : Overrides) (settings : Settings) (setting : Overridable) :
    (o.applyOne setting).outcome settings =
      (settings.override? o.value? setting).elim
        (.error (o.notANumber setting ((o.value? setting).getD "")), settings) (.ok (), ·) := by
  rw [applyOne, Settings.override?, value?]
  cases o.values.get? setting.name with
  | none => rfl
  | some raw =>
      have hget : (get : Action Settings Settings).outcome settings = (.ok settings, settings) :=
        rfl
      simp only [outcome_bind_of_ok hget, Option.elim_some]
      cases setting.assign? settings raw <;> rfl

/-- Overriding some settings goes through just if each of them can be
overridden after those before it. -/
theorem outcome_forM_applyOne_iff {list : List Overridable} :
    (list.forM o.applyOne).outcome settings = (.ok (), after) ↔
      list.foldlM (Settings.override? o.value?) settings = some after := by
  induction list generalizing settings with
  | nil =>
      change ((.ok (), settings) : Except Failure Unit × Settings) = (.ok (), after) ↔
        some settings = some after
      rw [Prod.mk.injEq, Option.some.injEq, eq_self, true_and]
  | cons setting rest ih =>
      have hone := outcome_applyOne o settings setting
      change (o.applyOne setting >>= fun _ => rest.forM o.applyOne).outcome settings = _ ↔ _
      rw [List.foldlM_cons]
      cases hfirst : settings.override? o.value? setting with
      | some next =>
          rw [hfirst] at hone
          rw [outcome_bind_of_ok hone]
          exact ih
      | none =>
          rw [hfirst] at hone
          rw [outcome_bind_of_error hone]
          simp

/-- Overrides go through just if all their numbers can be read, and then all
of them are in place. -/
theorem outcome_apply_iff :
    o.apply.outcome settings = (.ok (), after) ↔
      Overridable.NumbersReadable o.value? ∧ after = settings.overriddenBy o.value? := by
  rw [apply, outcome_forM_applyOne_iff, Settings.foldlM_override?_iff]

end Overrides

end LayeredConfig
