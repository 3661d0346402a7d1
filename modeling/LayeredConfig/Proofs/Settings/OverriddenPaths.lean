/-
The search paths that an override gives.  They are the ones that its text lists, and
joined by commas they are listed again.
-/
import LayeredConfig.Proofs.Settings.PartlyOverridden

namespace LayeredConfig

namespace Overrides

open Overridable

variable {o : Overrides} {raw : String}

/-- Search paths come first, so they are overridden even if another value is refused. -/
theorem keyPaths_outcome_apply (settings : Settings) (hraw : o.value? .keyPaths = some raw) :
    (o.apply.outcome settings).2.keyPaths = pathList raw := by
  rcases outcome_forM_applyOne o inOrder settings with
    ⟨left, hran⟩ | ⟨before, setting, rest, _, left, horder, hbefore, -, hnumber, -, hran⟩
  · obtain ⟨-, rfl⟩ := outcome_apply_iff.1 hran
    rw [apply, hran]
    simp only [Settings.overriddenBy, hraw, Option.map_some, Option.getD_some]
  · obtain ⟨-, rfl⟩ := Settings.overriddenBy_among horder hbefore
    have hfirst : Overridable.keyPaths ∈ before := by
      cases before with
      | nil =>
          cases horder
          cases hnumber
      | cons head later =>
          have hhead : Overridable.keyPaths = head := (List.cons.inj horder).1
          rw [hhead]
          exact List.mem_cons_self
    rw [apply, hran]
    simp only [Settings.overriddenBy, among, if_pos hfirst, hraw, Option.map_some,
      Option.getD_some]

/-- Search paths alone can always be overridden, and then nothing else changes. -/
theorem outcome_apply_of_keyPaths_only (settings : Settings)
    (hraw : o.value? .keyPaths = some raw)
    (hnone : ∀ setting, setting ≠ .keyPaths → o.value? setting = none) :
    o.apply.outcome settings = (.ok (), { settings with keyPaths := pathList raw }) := by
  have hreadable : NumbersReadable o.value? := by
    intro setting other hnumber hother
    have hsetting : setting ≠ .keyPaths := by
      rintro rfl
      cases hnumber
    rw [hnone setting hsetting] at hother
    cases hother
  have hvalue : o.value? = fun setting => if setting = .keyPaths then some raw else none := by
    funext setting
    by_cases hsetting : setting = .keyPaths
    · rw [if_pos hsetting, hsetting, hraw]
    · rw [if_neg hsetting, hnone setting hsetting]
  refine outcome_apply_iff.2 ⟨hreadable, ?_⟩
  rw [hvalue]
  rfl

/-- The search paths after overriding are those that the text lists, in its order: paths
that are not empty, hold no comma and have no blank at either end.  Any text lists just
one list of such paths, joining them by commas gives a text that lists them again, and
with no other value nothing else happens. -/
theorem apply_lists_keyPaths (settings : Settings) (hraw : o.value? .keyPaths = some raw) :
    ∃ paths, (o.apply.outcome settings).2.keyPaths = paths ∧
      (∀ listed, Lists raw listed ↔ paths = listed) ∧
      (∀ path ∈ paths, IsListable path) ∧
      (∀ (again : Overrides) (later : Settings),
        again.value? .keyPaths = some (",".intercalate paths) →
          (again.apply.outcome later).2.keyPaths = paths) ∧
      ((∀ setting, setting ≠ .keyPaths → o.value? setting = none) →
        o.apply.outcome settings = (.ok (), { settings with keyPaths := paths })) := by
  obtain ⟨items, -, hstand⟩ := pathList_eq_iff.1 (Eq.refl (pathList raw))
  have hlistable := hstand.isListable
  refine ⟨pathList raw, keyPaths_outcome_apply settings hraw, fun listed => pathList_eq_iff.symm,
    hlistable, ?_, outcome_apply_of_keyPaths_only settings hraw⟩
  intro again later hagain
  rw [keyPaths_outcome_apply later hagain]
  exact pathList_eq_iff.2 (lists_intercalate hlistable)

/-- Two paths with blanks in and around them, and items of blanks between. -/
def paddedPaths : Overrides := ofValues (.ofList [("KEY_PATHS", " a b\t,,\u3000, c ,")])

/-- The same paths joined again, in front of a value that is refused. -/
def joinedPaths : Overrides :=
  ofValues (.ofList [("KEY_PATHS", "a b,c"), ("REDIS_MAX_IDLE", "many")])

theorem apply_lists_keyPaths_padded :
    paddedPaths.value? .keyPaths = some " a b\t,,\u3000, c ," ∧
      Lists " a b\t,,\u3000, c ," ["a b", "c"] ∧
      (∀ setting, setting ≠ .keyPaths → paddedPaths.value? setting = none) ∧
      paddedPaths.apply.outcome {} = (.ok (), { keyPaths := ["a b", "c"] }) ∧
      joinedPaths.value? .keyPaths = some (",".intercalate ["a b", "c"]) ∧
      (joinedPaths.apply.outcome {}).2.keyPaths = ["a b", "c"] := by
  have hraw : paddedPaths.value? .keyPaths = some " a b\t,,\u3000, c ," := by decide +kernel
  have hlists : Lists " a b\t,,\u3000, c ," ["a b", "c"] := pathList_eq_iff.1 (by decide +kernel)
  have hnone : ∀ setting, setting ≠ .keyPaths → paddedPaths.value? setting = none := by
    intro setting
    cases setting <;> decide +kernel
  have hjoined : joinedPaths.value? .keyPaths = some (",".intercalate ["a b", "c"]) := by
    decide +kernel
  obtain ⟨paths, -, hunique, -, hagain, honly⟩ := apply_lists_keyPaths {} hraw
  obtain rfl : paths = ["a b", "c"] := (hunique _).1 hlists
  exact ⟨hraw, hlists, hnone, honly hnone, hjoined, hagain joinedPaths {} hjoined⟩

end Overrides

end LayeredConfig
