/-
Texts with blanks around them.  A text is trimmed if no blank is at either end, and
every text is a trimmed one between blanks in just one way: what is left of it when
the blanks are cut off is that trimmed text.
-/
import LayeredConfig.Text.Blank
import Mathlib.Data.List.DropRight

namespace LayeredConfig.Text

/-- Are all the characters blank? -/
def AllBlank (cs : List Char) : Prop := ∀ c ∈ cs, isBlank c = true

/-- Is no blank at either end? -/
structure IsTrimmed (cs : List Char) : Prop where
  first : ∀ c, cs.head? = some c → isBlank c = false
  last : ∀ c, cs.getLast? = some c → isBlank c = false

variable {cs core before after : List Char}

theorem isTrimmed_of_forall (h : ∀ c ∈ cs, isBlank c = false) : IsTrimmed cs where
  first c hc := h c (List.mem_of_head? hc)
  last c hc := h c (List.mem_of_getLast? hc)

theorem trimEnd_eq_rdropWhile (cs : List Char) : trimEnd cs = cs.rdropWhile isBlank := rfl

theorem dropWhile_isBlank_of_first (h : ∀ c, cs.head? = some c → isBlank c = false) :
    cs.dropWhile isBlank = cs := by
  cases cs with
  | nil => rfl
  | cons c rest => exact List.dropWhile_cons_of_neg (by simp [h c rfl])

theorem trim_append (hbefore : AllBlank before) (hcore : IsTrimmed core)
    (hafter : AllBlank after) : trim (before ++ core ++ after) = core := by
  have hend : trimEnd (core ++ after) = core := by
    have hreverse : core.reverse.dropWhile isBlank = core.reverse :=
      dropWhile_isBlank_of_first fun c hc => hcore.last c (by rwa [List.head?_reverse] at hc)
    have hblank : ∀ c ∈ after.reverse, isBlank c = true :=
      fun c hc => hafter c (List.mem_reverse.1 hc)
    rw [trimEnd, List.reverse_append, List.dropWhile_append_of_pos hblank, hreverse,
      List.reverse_reverse]
  rw [trim, List.append_assoc, List.dropWhile_append_of_pos hbefore]
  cases core with
  | nil =>
      have hnone : after.dropWhile isBlank = [] := List.dropWhile_eq_nil_iff.2 hafter
      rw [List.nil_append, hnone]
      rfl
  | cons c rest =>
      have hstarts : (c :: rest ++ after).dropWhile isBlank = c :: rest ++ after :=
        dropWhile_isBlank_of_first fun _ hc => hcore.first _ hc
      rw [hstarts, hend]

theorem exists_trim (cs : List Char) :
    ∃ before after, cs = before ++ trim cs ++ after ∧ AllBlank before ∧ AllBlank after := by
  refine ⟨cs.takeWhile isBlank, (cs.dropWhile isBlank).rtakeWhile isBlank, ?_,
    fun _ => List.mem_takeWhile_imp, fun _ => List.mem_rtakeWhile_imp⟩
  rw [trim, trimEnd_eq_rdropWhile, List.append_assoc, List.rdropWhile_append_rtakeWhile,
    List.takeWhile_append_dropWhile]

theorem isTrimmed_trim (cs : List Char) : IsTrimmed (trim cs) where
  first c hc := by
    have hprefix : trim cs <+: cs.dropWhile isBlank := List.rdropWhile_prefix isBlank _
    obtain ⟨after, hafter⟩ := hprefix
    have hhead : (cs.dropWhile isBlank).head? = some c := by
      rw [← hafter, List.head?_append, hc]
      rfl
    have hstopped := List.head?_dropWhile_not isBlank cs
    rw [hhead] at hstopped
    exact hstopped
  last c hc := by
    have hstopped := List.head?_dropWhile_not isBlank (cs.dropWhile isBlank).reverse
    rw [trim, trimEnd, List.getLast?_reverse] at hc
    rw [hc] at hstopped
    exact hstopped

theorem trim_eq_iff :
    trim cs = core ↔
      IsTrimmed core ∧
        ∃ before after, cs = before ++ core ++ after ∧ AllBlank before ∧ AllBlank after := by
  constructor
  · rintro rfl
    exact ⟨isTrimmed_trim cs, exists_trim cs⟩
  · rintro ⟨hcore, before, after, rfl, hbefore, hafter⟩
    exact trim_append hbefore hcore hafter

example : trim " \u3000a b\u00A0".toList = "a b".toList := by decide

end LayeredConfig.Text
