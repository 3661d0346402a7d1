/-
Search paths listed in one text.  Between the commas of any text stand blanks or a
path among blanks, so every text lists paths, and in just one way.
-/
import LayeredConfig.Proofs.Trimming
import LayeredConfig.Settings.Overrides

namespace LayeredConfig

namespace Overridable

/-- A path that can stand in a list. -/
structure IsListable (path : String) : Prop where
  ne_empty : path ≠ ""
  comma_not_mem : ',' ∉ path.toList
  isTrimmed : Text.IsTrimmed path.toList

/-- Items that stand for paths: an item of blanks for none, and any other for the path
that it holds among blanks. -/
inductive StandFor : List (List Char) → List String → Prop
  | nil : StandFor [] []
  | blank {item : List Char} {items : List (List Char)} {paths : List String}
      (hitem : Text.AllBlank item) (hitems : StandFor items paths) :
      StandFor (item :: items) paths
  | path {before after : List Char} {path : String} {items : List (List Char)}
      {paths : List String} (hpath : IsListable path) (hbefore : Text.AllBlank before)
      (hafter : Text.AllBlank after) (hitems : StandFor items paths) :
      StandFor ((before ++ path.toList ++ after) :: items) (path :: paths)

/-- A text lists paths: it is made of items that stand for them, joined by commas. -/
def Lists (raw : String) (paths : List String) : Prop :=
  ∃ items, raw.toList = [','].intercalate items ∧ StandFor items paths

/-- The paths that are read from items. -/
def pathsAmong (items : List (List Char)) : List String :=
  ((items.map Text.trim).filter fun path => !path.isEmpty).map String.ofList

theorem pathList_eq_pathsAmong (raw : String) :
    pathList raw = pathsAmong (Text.pieces ',' raw.toList) := rfl

variable {raw path : String} {paths : List String} {item before after : List Char}
  {items : List (List Char)}

theorem comma_not_mem_of_allBlank {cs : List Char} (h : Text.AllBlank cs) : ',' ∉ cs := by
  intro hcomma
  have hblank := h ',' hcomma
  simp [Text.isBlank] at hblank

theorem pathsAmong_cons_blank (h : Text.AllBlank item) :
    pathsAmong (item :: items) = pathsAmong items := by
  have htrim : Text.trim item = [] := by
    have hempty : Text.IsTrimmed [] := Text.isTrimmed_of_forall (by simp)
    exact Text.trim_eq_iff.2 ⟨hempty, item, [], by simp, h, by simp [Text.AllBlank]⟩
  simp [pathsAmong, htrim]

theorem pathsAmong_cons_path (hpath : IsListable path) (hbefore : Text.AllBlank before)
    (hafter : Text.AllBlank after) :
    pathsAmong ((before ++ path.toList ++ after) :: items) = path :: pathsAmong items := by
  have htrim : Text.trim (before ++ path.toList ++ after) = path.toList :=
    Text.trim_append hbefore hpath.isTrimmed hafter
  simp only [pathsAmong, List.map_cons, htrim]
  simp [hpath.ne_empty]

/-- Items without commas stand for the paths that are read from them. -/
theorem standFor_pathsAmong (h : ∀ item ∈ items, ',' ∉ item) :
    StandFor items (pathsAmong items) := by
  induction items with
  | nil => exact .nil
  | cons item items ih =>
      obtain ⟨hcomma, hrest⟩ := List.forall_mem_cons.1 h
      obtain ⟨core, htrim⟩ : ∃ core, Text.trim item = core := ⟨_, rfl⟩
      obtain ⟨htrimmed, before, after, rfl, hbefore, hafter⟩ := Text.trim_eq_iff.1 htrim
      by_cases hempty : core = []
      · have hblank : Text.AllBlank (before ++ core ++ after) := by
          intro c hc
          simp only [hempty, List.append_nil, List.mem_append] at hc
          exact hc.elim (hbefore c) (hafter c)
        rw [pathsAmong_cons_blank hblank]
        exact .blank hblank (ih hrest)
      · have hcore : ',' ∉ core := fun hmem => hcomma (by simp [hmem])
        have hpath : IsListable (String.ofList core) :=
          ⟨by simpa using hempty, by simpa using hcore, by simpa using htrimmed⟩
        have hstand := StandFor.path hpath hbefore hafter (ih hrest)
        rwa [← pathsAmong_cons_path hpath hbefore hafter, String.toList_ofList] at hstand

theorem StandFor.pathsAmong_eq (h : StandFor items paths) : pathsAmong items = paths := by
  induction h with
  | nil => rfl
  | blank hitem _ ih => rw [pathsAmong_cons_blank hitem, ih]
  | path hpath hbefore hafter _ ih => rw [pathsAmong_cons_path hpath hbefore hafter, ih]

theorem StandFor.comma_not_mem (h : StandFor items paths) : ∀ item ∈ items, ',' ∉ item := by
  induction h with
  | nil => simp
  | blank hitem _ ih => exact List.forall_mem_cons.2 ⟨comma_not_mem_of_allBlank hitem, ih⟩
  | path hpath hbefore hafter _ ih =>
      refine List.forall_mem_cons.2 ⟨?_, ih⟩
      simp [comma_not_mem_of_allBlank hbefore, comma_not_mem_of_allBlank hafter,
        hpath.comma_not_mem]

theorem StandFor.isListable (h : StandFor items paths) : ∀ path ∈ paths, IsListable path := by
  induction h with
  | nil => simp
  | blank _ _ ih => exact ih
  | path hpath _ _ _ ih => exact List.forall_mem_cons.2 ⟨hpath, ih⟩

/-- Every text lists the paths that are read from it, and no other list of paths. -/
theorem pathList_eq_iff : pathList raw = paths ↔ Lists raw paths := by
  constructor
  · rintro rfl
    exact ⟨Text.pieces ',' raw.toList, (Text.intercalate_pieces ',' raw.toList).symm,
      standFor_pathsAmong fun _ => Text.not_mem_of_mem_pieces⟩
  · rintro ⟨items, hraw, hstand⟩
    rw [pathList_eq_pathsAmong, hraw]
    cases items with
    | nil =>
        cases hstand
        rfl
    | cons item items =>
        rw [Text.pieces_intercalate hstand.comma_not_mem (by simp)]
        exact hstand.pathsAmong_eq

/-- Joined by commas, paths give a text that lists them. -/
theorem lists_intercalate (h : ∀ path ∈ paths, IsListable path) :
    Lists (",".intercalate paths) paths := by
  refine ⟨paths.map String.toList, String.toList_intercalate, ?_⟩
  induction paths with
  | nil => exact .nil
  | cons path paths ih =>
      obtain ⟨hpath, hpaths⟩ := List.forall_mem_cons.1 h
      have hnone : Text.AllBlank [] := by simp [Text.AllBlank]
      simpa using StandFor.path hpath hnone hnone (ih hpaths)

end Overridable

end LayeredConfig
