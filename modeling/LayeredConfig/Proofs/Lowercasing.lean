/-
What lower-casing looks at.  Only the small letter of a capital sigma depends
on its neighbours, and the look at them goes no further than to a hyphen, so a
text is lower-cased apart on the two sides of a hyphen.  The case of a letter
of ASCII makes no difference, neither to its own small letter nor to a sigma
that stands near it.
-/
import LayeredConfig.Text.Lowercase

namespace LayeredConfig.Text

theorem meetsCased_cons (c : Char) (cs : List Char) :
    meetsCased (c :: cs) =
      if inRuns caseIgnorableRuns c.toNat then meetsCased cs else inRuns casedRuns c.toNat := by
  by_cases hpassed : inRuns caseIgnorableRuns c.toNat = true
  · rw [if_pos hpassed, meetsCased, List.dropWhile_cons, if_pos hpassed, meetsCased]
  · rw [if_neg hpassed, meetsCased, List.dropWhile_cons, if_neg hpassed]

theorem lowerChar_ne_nil (c : Char) : lowerChar c ≠ [] := by
  unfold lowerChar
  split
  · exact List.cons_ne_nil _ _
  · split <;> exact List.cons_ne_nil _ _

theorem lowercase_eq_empty_iff {s : String} : lowercase s = "" ↔ s = "" := by
  rw [← String.toList_eq_nil_iff, ← String.toList_eq_nil_iff, lowercase, String.toList_ofList]
  cases s.toList with
  | nil => exact Iff.rfl
  | cons c cs =>
      rw [lowercaseAfter, List.append_eq_nil_iff]
      have hne : (if c = 'Σ' then [if meetsCased [] && !meetsCased cs then 'ς' else 'σ']
          else lowerChar c) ≠ [] := by
        split
        · exact List.cons_ne_nil _ _
        · exact lowerChar_ne_nil c
      exact iff_of_false (fun h => hne h.1) (List.cons_ne_nil _ _)

section Hyphen

variable (before hidden cs rest : List Char)

/-- A hyphen is neither passed over nor cased, so the look at the neighbours
ends there as it does at the end of the text. -/
theorem meetsCased_append_hyphen : meetsCased (cs ++ '-' :: hidden) = meetsCased cs := by
  induction cs with
  | nil =>
      have hpassed : inRuns caseIgnorableRuns '-'.toNat = false := by decide +kernel
      have hcased : inRuns casedRuns '-'.toNat = false := by decide +kernel
      rw [List.nil_append, meetsCased_cons, hpassed, if_neg Bool.false_ne_true, hcased]
      rfl
  | cons c cs ih => rw [List.cons_append, meetsCased_cons, meetsCased_cons, ih]

theorem lowercaseAfter_hidden :
    lowercaseAfter (before ++ '-' :: hidden) cs = lowercaseAfter before cs := by
  induction cs generalizing before with
  | nil => rfl
  | cons c cs ih =>
      rw [lowercaseAfter, lowercaseAfter, meetsCased_append_hyphen, ← List.cons_append, ih]

theorem lowercaseAfter_append_hyphen :
    lowercaseAfter before (cs ++ '-' :: rest) =
      lowercaseAfter before cs ++ '-' :: lowercaseAfter [] rest := by
  induction cs generalizing before with
  | nil =>
      have hhyphen : lowerChar '-' = ['-'] := by decide
      have hbehind := lowercaseAfter_hidden [] before rest
      rw [List.nil_append] at hbehind
      rw [List.nil_append, lowercaseAfter, lowercaseAfter, if_neg (show '-' ≠ 'Σ' by decide),
        hhyphen, hbehind]
      rfl
  | cons c cs ih =>
      rw [List.cons_append, lowercaseAfter, lowercaseAfter, meetsCased_append_hyphen, ih,
        List.append_assoc]

/-- What follows a text that ends in a hyphen is lower-cased as if it stood
alone. -/
theorem lowercase_append_of_hyphen (stem name : String) :
    lowercase (stem ++ "-" ++ name) = lowercase (stem ++ "-") ++ lowercase name := by
  have hstem := lowercaseAfter_append_hyphen [] stem.toList []
  have hwhole := lowercaseAfter_append_hyphen [] stem.toList name.toList
  have htext : (stem ++ "-" ++ name).toList = stem.toList ++ '-' :: name.toList := by simp
  have hmark : (stem ++ "-").toList = stem.toList ++ '-' :: [] := by simp
  rw [lowercase, lowercase, lowercase, htext, hmark, hstem, hwhole, ← String.ofList_append]
  simp [lowercaseAfter]

end Hyphen

section Letters

/-- The capital letter of ASCII at a place of the alphabet. -/
def capital (n : Nat) : Char := Char.ofNat ('A'.toNat + n)

theorem toLower_eq_or_capital (c : Char) : c.toLower = c ∨ ∃ n < 26, c = capital n := by
  unfold Char.toLower
  split
  · next hrange =>
      obtain ⟨hlow, hhigh⟩ := hrange
      have hfirst : 65 ≤ c.toNat := hlow
      have hlast : c.toNat ≤ 90 := hhigh
      refine Or.inr ⟨c.toNat - 65, by omega, ?_⟩
      change c = Char.ofNat (65 + (c.toNat - 65))
      rw [Nat.add_sub_cancel' hfirst, Char.ofNat_toNat]
  · exact Or.inl rfl

theorem lowerChar_toLower (c : Char) : lowerChar c.toLower = lowerChar c := by
  have hcapitals : ∀ n < 26, lowerChar (capital n).toLower = lowerChar (capital n) := by decide
  obtain hsame | ⟨n, hn, rfl⟩ := toLower_eq_or_capital c
  · rw [hsame]
  · exact hcapitals n hn

theorem toLower_eq_sigma_iff (c : Char) : c.toLower = 'Σ' ↔ c = 'Σ' := by
  have hcapitals : ∀ n < 26, ((capital n).toLower = 'Σ' ↔ capital n = 'Σ') := by decide
  obtain hsame | ⟨n, hn, rfl⟩ := toLower_eq_or_capital c
  · rw [hsame]
  · exact hcapitals n hn

/-- Runs that start behind a code point make no difference to it. -/
theorem inRuns_take {runs : List (Nat × Nat)} {k bound n : Nat}
    (hbehind : ((runs.drop k).all fun run => bound ≤ run.1) = true) (hn : n < bound) :
    inRuns runs n = inRuns (runs.take k) n := by
  have hrest : ((runs.drop k).any fun run => run.1 ≤ n && n ≤ run.2) = false := by
    rw [List.any_eq_false]
    intro run hrun
    have hstart : bound ≤ run.1 := by simpa using List.all_eq_true.1 hbehind run hrun
    simp [Nat.not_le.2 (Nat.lt_of_lt_of_le hn hstart)]
  rw [inRuns, ← List.take_append_drop k runs, List.any_append, hrest, Bool.or_false,
    List.take_append_drop, inRuns]

/-- A capital letter of ASCII is passed over, or cased, just as its small
letter is. -/
theorem inRuns_toLower (c : Char) :
    inRuns caseIgnorableRuns c.toLower.toNat = inRuns caseIgnorableRuns c.toNat ∧
      inRuns casedRuns c.toLower.toNat = inRuns casedRuns c.toNat := by
  obtain hsame | ⟨n, hn, rfl⟩ := toLower_eq_or_capital c
  · rw [hsame]
    exact ⟨rfl, rfl⟩
  -- Of each table only the first few runs hold anything of ASCII, so no letter
  -- is looked up in the rest of it.
  have hascii : ∀ n < 26, (capital n).toNat < 128 ∧ (capital n).toLower.toNat < 128 := by decide
  have hpassed : ∀ n < 26, inRuns (caseIgnorableRuns.take 5) (capital n).toLower.toNat =
      inRuns (caseIgnorableRuns.take 5) (capital n).toNat := by decide +kernel
  have hcased : ∀ n < 26, inRuns (casedRuns.take 2) (capital n).toLower.toNat =
      inRuns (casedRuns.take 2) (capital n).toNat := by decide +kernel
  have hpassable : ((caseIgnorableRuns.drop 5).all fun run => 128 ≤ run.1) = true := by
    decide +kernel
  have hcase : ((casedRuns.drop 2).all fun run => 128 ≤ run.1) = true := by decide +kernel
  obtain ⟨hbig, hsmall⟩ := hascii n hn
  rw [inRuns_take hpassable hsmall, inRuns_take hpassable hbig, inRuns_take hcase hsmall,
    inRuns_take hcase hbig]
  exact ⟨hpassed n hn, hcased n hn⟩

theorem meetsCased_map_toLower (cs : List Char) :
    meetsCased (cs.map Char.toLower) = meetsCased cs := by
  induction cs with
  | nil => rfl
  | cons c cs ih =>
      obtain ⟨hpassed, hcased⟩ := inRuns_toLower c
      rw [List.map_cons, meetsCased_cons, meetsCased_cons, ih, hpassed, hcased]

theorem lowercaseAfter_map_toLower (before cs : List Char) :
    lowercaseAfter (before.map Char.toLower) (cs.map Char.toLower) = lowercaseAfter before cs := by
  induction cs generalizing before with
  | nil => rfl
  | cons c cs ih =>
      have htail := ih (c :: before)
      rw [List.map_cons] at htail
      simp only [List.map_cons, lowercaseAfter, toLower_eq_sigma_iff, lowerChar_toLower,
        meetsCased_map_toLower, htail]

/-- Two texts differ in nothing but the case of letters of ASCII. -/
def SameLetters (s t : String) : Prop :=
  s.toList.map Char.toLower = t.toList.map Char.toLower

instance (s t : String) : Decidable (SameLetters s t) := inferInstanceAs (Decidable (_ = _))

theorem SameLetters.lowercase_eq {s t : String} (h : SameLetters s t) :
    lowercase s = lowercase t := by
  have hs := lowercaseAfter_map_toLower [] s.toList
  have ht := lowercaseAfter_map_toLower [] t.toList
  rw [lowercase, lowercase, ← hs, ← ht, h]

end Letters

end LayeredConfig.Text
