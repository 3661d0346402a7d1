/-
Overrides that do not all go through.  They stop at the first value that is no
number where a number is wanted; what stands before it is in place, and nothing
else has changed.
-/
import LayeredConfig.Proofs.Numerals
import LayeredConfig.Proofs.Settings.Overridden
import LayeredConfig.Proofs.Settings.PathLists

namespace LayeredConfig

open LayeredConfig.Action

namespace Text

theorem isBlank_of_isDigit {c : Char} (h : c.isDigit = true) : isBlank c = false := by
  have hrange : 48 ≤ c.toNat ∧ c.toNat ≤ 57 := Char.isDigit_iff_toNat.1 h
  simp only [isBlank, Bool.or_eq_false_iff, Bool.and_eq_false_iff, decide_eq_false_iff_not,
    beq_eq_false_iff_ne]
  omega

/-- A number is written without blanks. -/
theorem DenotesWord.isTrimmed {cs : List Char} {n : Nat} (h : DenotesWord cs n) :
    IsTrimmed cs := by
  rcases h with ⟨_, hdigits, _⟩ | ⟨_, hdigits, _⟩
  · exact isTrimmed_of_forall fun c hc => isBlank_of_isDigit (hdigits c hc)
  · exact isTrimmed_of_forall (List.forall_mem_cons.2
      ⟨by decide, fun c hc => isBlank_of_isDigit (hdigits c hc)⟩)

end Text

namespace Overridable

variable {raw : String} {n : Nat} {value? : Overridable → Option String} {setting : Overridable}
  {settings after : Settings} {list : List Overridable}

/-- A text gives a number: it is one, with any blanks around it. -/
def Gives (raw : String) (n : Nat) : Prop :=
  ∃ before word after, raw.toList = before ++ word ++ after ∧
    Text.AllBlank before ∧ Text.AllBlank after ∧ Text.DenotesWord word n

theorem number?_eq_some_iff : number? raw = some n ↔ Gives raw n := by
  rw [number?, Text.word?_eq_some_iff]
  constructor
  · intro h
    obtain ⟨-, before, after, hraw, hbefore, hafter⟩ :=
      Text.trim_eq_iff.1 (Eq.refl (Text.trim raw.toList))
    exact ⟨before, _, after, hraw, hbefore, hafter, h⟩
  · rintro ⟨before, word, after, hraw, hbefore, hafter, h⟩
    rw [Text.trim_eq_iff.2 ⟨h.isTrimmed, before, after, hraw, hbefore, hafter⟩]
    exact h

theorem number?_isSome_iff : (number? raw).isSome = true ↔ ∃ n, Gives raw n := by
  simp only [Option.isSome_iff_exists, number?_eq_some_iff]

theorem numbersReadable_iff_gives : NumbersReadable value? ↔
    ∀ setting raw, setting.isNumber = true → value? setting = some raw → ∃ n, Gives raw n := by
  simp only [NumbersReadable, number?_isSome_iff]

/-- Each setting comes once in the order. -/
theorem ne_of_inOrder {before rest : List Overridable} (h : inOrder = before ++ rest)
    {earlier later : Overridable} (hearlier : earlier ∈ before) (hlater : later ∈ rest) :
    earlier ≠ later := by
  have hnodup : inOrder.Nodup := by decide
  rw [h] at hnodup
  exact (List.nodup_append.1 hnodup).2.2 earlier hearlier later hlater

/-- So it is known what stands before a setting. -/
theorem eq_takeWhile_of_inOrder {before rest : List Overridable}
    (h : inOrder = before ++ setting :: rest) : before = inOrder.takeWhile (· != setting) := by
  have hother : ∀ earlier ∈ before, (earlier != setting) = true := fun earlier hearlier =>
    bne_iff_ne.2 (ne_of_inOrder h hearlier List.mem_cons_self)
  rw [h, List.takeWhile_append_of_pos hother, List.takeWhile_cons_of_neg (by simp), List.append_nil]

/-- The values of some settings only. -/
def among (list : List Overridable) (value? : Overridable → Option String)
    (setting : Overridable) : Option String :=
  if setting ∈ list then value? setting else none

end Overridable

namespace Settings

open Overridable

/-- What a field is if there may be a value for it: what the value gives, or what it
was if there is none. -/
def Settled {β : Type} (raw? : Option String) (gives : String → β → Prop) (old new : β) : Prop :=
  (∀ raw, raw? = some raw → gives raw new) ∧ (raw? = none → new = old)

/-- Settings with the values in place that there are, and otherwise as they were. -/
structure OverriddenFrom (value? : Overridable → Option String) (old new : Settings) : Prop where
  keyPaths : Settled (value? .keyPaths) Lists old.keyPaths new.keyPaths
  keyPrefix : Settled (value? .keyPrefix) (fun raw text => text = raw) old.keyPrefix new.keyPrefix
  hdrPrefix : Settled (value? .hdrPrefix) (fun raw text => text = raw) old.hdrPrefix new.hdrPrefix
  maxSubstitutionDepth : Settled (value? .maxSubstitutionDepth) Gives
    old.maxSubstitutionDepth new.maxSubstitutionDepth
  redisUrl : Settled (value? .redisUrl) (fun raw text => text = raw) old.redis.url new.redis.url
  redisMaxIdle : Settled (value? .redisMaxIdle) Gives old.redis.maxIdle new.redis.maxIdle
  redisMaxActive : Settled (value? .redisMaxActive) Gives old.redis.maxActive new.redis.maxActive
  others : new = { old with
    keyPaths := new.keyPaths
    keyPrefix := new.keyPrefix
    hdrPrefix := new.hdrPrefix
    maxSubstitutionDepth := new.maxSubstitutionDepth
    redis := { old.redis with
      url := new.redis.url
      maxIdle := new.redis.maxIdle
      maxActive := new.redis.maxActive } }

variable {value? other? : Overridable → Option String} {settings after : Settings}
  {setting : Overridable} {list : List Overridable}

section Settled

variable {raw? : Option String}

theorem settled_text_iff {old new : String} :
    Settled raw? (fun raw text => text = raw) old new ↔ new = raw?.getD old := by
  cases raw? <;> simp [Settled]

theorem settled_paths_iff {old new : List String} :
    Settled raw? Lists old new ↔ new = (raw?.map pathList).getD old := by
  cases raw? <;> simp [Settled, ← pathList_eq_iff, eq_comm]

theorem settled_number_iff {old new : Nat} :
    Settled raw? Gives old new ↔
      (∀ raw, raw? = some raw → (number? raw).isSome = true) ∧
        new = (raw?.bind number?).getD old := by
  cases raw? with
  | none => simp [Settled]
  | some raw =>
      simp only [Settled, ← number?_eq_some_iff, Option.some.injEq, forall_eq', Option.bind_some]
      cases number? raw <;> simp [eq_comm]

end Settled

/-- With values in place means that all numbers can be read and that settings are
overridden by the values. -/
theorem overriddenFrom_iff : OverriddenFrom value? settings after ↔
    NumbersReadable value? ∧ after = settings.overriddenBy value? := by
  rw [numbersReadable_iff]
  constructor
  · intro h
    obtain ⟨hdepth, rdepth⟩ := settled_number_iff.1 h.maxSubstitutionDepth
    obtain ⟨hidle, ridle⟩ := settled_number_iff.1 h.redisMaxIdle
    obtain ⟨hactive, ractive⟩ := settled_number_iff.1 h.redisMaxActive
    refine ⟨⟨hdepth, hidle, hactive⟩, ?_⟩
    rw [h.others, settled_paths_iff.1 h.keyPaths, settled_text_iff.1 h.keyPrefix,
      settled_text_iff.1 h.hdrPrefix, rdepth, settled_text_iff.1 h.redisUrl, ridle, ractive]
    rfl
  · rintro ⟨⟨hdepth, hidle, hactive⟩, rfl⟩
    exact ⟨settled_paths_iff.2 rfl, settled_text_iff.2 rfl, settled_text_iff.2 rfl,
      settled_number_iff.2 ⟨hdepth, rfl⟩, settled_text_iff.2 rfl,
      settled_number_iff.2 ⟨hidle, rfl⟩, settled_number_iff.2 ⟨hactive, rfl⟩, rfl⟩

/-- A single override is refused only if it should be a number and is none. -/
theorem override?_eq_none_iff :
    settings.override? value? setting = none ↔
      ∃ raw, value? setting = some raw ∧ setting.isNumber = true ∧ number? raw = none := by
  rw [override?]
  cases hvalue : value? setting with
  | none => simp
  | some raw => cases setting <;> simp [assign?, isNumber]

/-- Settings that have no value to override them stay. -/
theorem foldlM_override?_of_none (h : ∀ setting ∈ list, value? setting = none) :
    list.foldlM (override? value?) settings = some settings := by
  induction list with
  | nil => rfl
  | cons setting rest ih =>
      obtain ⟨hsetting, hrest⟩ := List.forall_mem_cons.1 h
      rw [List.foldlM_cons, override?, hsetting]
      exact ih hrest

theorem foldlM_override?_congr (h : ∀ setting ∈ list, value? setting = other? setting) :
    list.foldlM (override? value?) settings = list.foldlM (override? other?) settings := by
  induction list generalizing settings with
  | nil => rfl
  | cons setting rest ih =>
      obtain ⟨hsetting, hrest⟩ := List.forall_mem_cons.1 h
      rw [List.foldlM_cons, List.foldlM_cons, override?, override?, hsetting]
      exact bind_congr fun _ => ih hrest

/-- What stands before a setting is put in place as if there were no values for what
comes then. -/
theorem overriddenBy_among {before rest : List Overridable} (horder : inOrder = before ++ rest)
    (h : before.foldlM (override? value?) settings = some after) :
    NumbersReadable (among before value?) ∧
      after = settings.overriddenBy (among before value?) := by
  have hbefore : ∀ setting ∈ before, among before value? setting = value? setting :=
    fun _ hsetting => if_pos hsetting
  have hrest : ∀ setting ∈ rest, among before value? setting = none :=
    fun _ hsetting => if_neg fun hearlier => ne_of_inOrder horder hearlier hsetting rfl
  rw [← foldlM_override?_iff, horder, List.foldlM_append, foldlM_override?_congr hbefore, h]
  exact foldlM_override?_of_none hrest

end Settings

namespace Overrides

open Overridable

variable {o : Overrides} {settings : Settings} {list : List Overridable}

/-- Either all overrides of a list go through, or one of them is the first that is
refused, and those before it are in place. -/
theorem outcome_forM_applyOne (o : Overrides) (list : List Overridable) (settings : Settings) :
    (∃ after, (list.forM o.applyOne).outcome settings = (.ok (), after)) ∨
      ∃ before setting rest raw after, list = before ++ setting :: rest ∧
        before.foldlM (Settings.override? o.value?) settings = some after ∧
        o.value? setting = some raw ∧ setting.isNumber = true ∧ number? raw = none ∧
        (list.forM o.applyOne).outcome settings = (.error (o.notANumber setting raw), after) := by
  induction list generalizing settings with
  | nil => exact .inl ⟨settings, rfl⟩
  | cons setting rest ih =>
      have hone := outcome_applyOne o settings setting
      have hcons : ((setting :: rest).forM o.applyOne).outcome settings =
          (o.applyOne setting >>= fun _ => rest.forM o.applyOne).outcome settings := rfl
      rw [hcons]
      cases hfirst : settings.override? o.value? setting with
      | none =>
          obtain ⟨raw, hvalue, hnumber, hraw⟩ := Settings.override?_eq_none_iff.1 hfirst
          rw [hfirst, hvalue] at hone
          exact .inr ⟨[], setting, rest, raw, settings, rfl, rfl, hvalue, hnumber, hraw,
            outcome_bind_of_error hone _⟩
      | some next =>
          rw [hfirst] at hone
          rw [outcome_bind_of_ok hone]
          rcases ih next with hall | ⟨before, bad, later, raw, after, rfl, hbefore, hbad⟩
          · exact .inl hall
          · refine .inr ⟨setting :: before, bad, later, raw, after, rfl, ?_, hbad⟩
            rw [List.foldlM_cons, hfirst]
            exact hbefore

/-- Overrides go through just if each value that should be a number is one: digits of
ASCII, perhaps behind a plus and with any blanks around, that stand for an unsigned
64-bit word.  Then each of the seven settings has its value, or its old one if there
is none.  Otherwise the failure is about the first value in the order of the
overrides that is no number, and exactly the settings that stand before it are
overridden.  No other setting is ever touched. -/
theorem apply_settles (o : Overrides) (settings : Settings) :
    ∃ result left, o.apply.outcome settings = (result, left) ∧
      (result = .ok () ↔ ∀ setting raw, setting.isNumber = true →
        o.value? setting = some raw → ∃ n, Gives raw n) ∧
      (result = .ok () → Settings.OverriddenFrom o.value? settings left) ∧
      ∀ failure, result = .error failure →
        ∃ before setting rest raw, inOrder = before ++ setting :: rest ∧
          setting.isNumber = true ∧ o.value? setting = some raw ∧ (∀ n, ¬ Gives raw n) ∧
          (∀ earlier ∈ before, ∀ raw, earlier.isNumber = true →
            o.value? earlier = some raw → ∃ n, Gives raw n) ∧
          failure = o.notANumber setting raw ∧
          Settings.OverriddenFrom (among before o.value?) settings left := by
  rcases outcome_forM_applyOne o inOrder settings with
    ⟨left, hran⟩ | ⟨before, setting, rest, raw, left, horder, hbefore, hvalue, hnumber, hraw, hran⟩
  · obtain ⟨hreadable, rfl⟩ := outcome_apply_iff.1 hran
    exact ⟨_, _, hran, ⟨fun _ => numbersReadable_iff_gives.1 hreadable, fun _ => rfl⟩,
      fun _ => Settings.overriddenFrom_iff.2 ⟨hreadable, rfl⟩, nofun⟩
  · obtain ⟨hreadable, rfl⟩ := Settings.overriddenBy_among horder hbefore
    have hnever : ∀ n, ¬ Gives raw n := by
      intro n hgives
      rw [number?_eq_some_iff.2 hgives] at hraw
      cases hraw
    refine ⟨_, _, hran, ⟨nofun, fun hall => ?_⟩, nofun, ?_⟩
    · obtain ⟨n, hgives⟩ := hall setting raw hnumber hvalue
      exact absurd hgives (hnever n)
    · rintro _ ⟨⟩
      refine ⟨before, setting, rest, raw, horder, hnumber, hvalue, hnever, ?_, rfl,
        Settings.overriddenFrom_iff.2 ⟨hreadable, rfl⟩⟩
      intro earlier hearlier raw hnumber hvalue
      refine number?_isSome_iff.1 (hreadable earlier raw hnumber ?_)
      rwa [among, if_pos hearlier]

/-- The limit is met with zeros, a plus and blanks, and then one more is too much. -/
def tooManyIdle : Overrides :=
  ofValues (.ofList [("KEY_PATHS", " b ,, a"), ("REDIS_URL", "redis://cache"),
    ("MAX_SUBSTITUTION_DEPTH", "\u2003+0018446744073709551615\n"),
    ("REDIS_MAX_ACTIVE", "many"), ("REDIS_MAX_IDLE", "18446744073709551616")])

/-- What stands behind the number that is refused is not looked at. -/
theorem apply_settles_tooManyIdle :
    tooManyIdle.apply.outcome {} =
      (.error (.invalidSettings "REDIS_MAX_IDLE is not a valid number: '18446744073709551616'"),
        { keyPaths := ["b", "a"]
          maxSubstitutionDepth := 18446744073709551615
          redis := { url := "redis://cache" } }) := by
  have hdepth : tooManyIdle.value? .maxSubstitutionDepth =
      some "\u2003+0018446744073709551615\n" := by decide +kernel
  have hgives : Gives "\u2003+0018446744073709551615\n" 18446744073709551615 :=
    number?_eq_some_iff.1 (by decide +kernel)
  have hidle : tooManyIdle.value? .redisMaxIdle = some "18446744073709551616" := by
    decide +kernel
  have hnever : ∀ n, ¬ Gives "18446744073709551616" n := by
    intro n hgives
    have hnone : number? "18446744073709551616" = none := by decide +kernel
    cases hnone.symm.trans (number?_eq_some_iff.2 hgives)
  obtain ⟨result, left, hran, hok, -, hrefused⟩ := apply_settles tooManyIdle {}
  rw [hran]
  cases result with
  | ok _ =>
      obtain ⟨n, hn⟩ := hok.1 rfl .redisMaxIdle _ rfl hidle
      exact absurd hn (hnever n)
  | error failure =>
      obtain ⟨before, setting, rest, raw, horder, hnumber, hvalue, hbad, hearlier, rfl, hleft⟩ :=
        hrefused failure rfl
      obtain rfl := eq_takeWhile_of_inOrder horder
      obtain ⟨-, rfl⟩ := Settings.overriddenFrom_iff.1 hleft
      cases setting with
      | redisMaxIdle =>
          cases hidle.symm.trans hvalue
          decide +kernel
      | maxSubstitutionDepth =>
          cases hdepth.symm.trans hvalue
          exact absurd hgives (hbad _)
      | redisMaxActive =>
          obtain ⟨n, hn⟩ := hearlier .redisMaxIdle (by decide) _ rfl hidle
          exact absurd hn (hnever n)
      | _ => cases hnumber

end Overrides

end LayeredConfig
