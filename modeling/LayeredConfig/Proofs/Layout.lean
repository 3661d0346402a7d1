/-
Where references stand in a text.  Two of them never overlap, so a text is in
one way only a row of references with plain text around them, and cutting it
from the left finds just that row.
-/
import LayeredConfig.Fragment
import Mathlib.Logic.ExistsUnique

namespace LayeredConfig

namespace Fragment

/-- May this text stand between the braces of a reference?  It is not empty, and no
brace and no blank is in it. -/
def IsInside (inner : List Char) : Prop :=
  inner ≠ [] ∧ ∀ c ∈ inner, c ≠ '{' ∧ c ≠ '}' ∧ Text.isBlank c = false

/-- A reference stands at a place of a text. -/
def StandsAt (text : List Char) (place : Nat) (inner : List Char) : Prop :=
  IsInside inner ∧
    ∃ before after, text = before ++ ((reference inner).chars ++ after) ∧ before.length = place

/-- No reference stands in the text. -/
def Plain (text : List Char) : Prop :=
  ∀ place inner, ¬ StandsAt text place inner

theorem IsInside.opening_not_mem {inner : List Char} (h : IsInside inner) : '{' ∉ inner :=
  fun hmem => (h.2 _ hmem).1 rfl

theorem IsInside.closing_not_mem {inner : List Char} (h : IsInside inner) : '}' ∉ inner :=
  fun hmem => (h.2 _ hmem).2.1 rfl

theorem isInner_iff {c : Char} :
    isInner c = true ↔ c ≠ '{' ∧ c ≠ '}' ∧ Text.isBlank c = false := by
  simp [isInner, and_assoc]

/-- It is made of the characters that the scanner takes. -/
theorem isInside_iff {inner : List Char} :
    IsInside inner ↔ inner ≠ [] ∧ ∀ c ∈ inner, isInner c = true := by
  simp only [IsInside, isInner_iff]

/-- Texts without a closing brace that end at the same brace are equal. -/
theorem inner_eq_of_closed {inner other after after' : List Char}
    (hinner : IsInside inner) (hother : IsInside other)
    (h : inner ++ '}' :: after = other ++ '}' :: after') : inner = other := by
  rcases List.append_eq_append_iff.1 h with ⟨gap, hgap, hrest⟩ | ⟨gap, hgap, hrest⟩
  · cases gap with
    | nil => simpa using hgap.symm
    | cons c gap =>
        obtain rfl : '}' = c := (List.cons.inj hrest).1
        exact absurd (by rw [hgap]; simp) hother.closing_not_mem
  · cases gap with
    | nil => simpa using hgap
    | cons c gap =>
        obtain rfl : '}' = c := (List.cons.inj hrest).1
        exact absurd (by rw [hgap]; simp) hinner.closing_not_mem

/-- Behind its start a reference holds no start of another: a brace opens only
there, and the text ends in a brace that closes. -/
theorem start_not_inside {inner gap left other after : List Char} (hinner : IsInside inner)
    (hgap : gap ≠ []) (h : (reference inner).chars = gap ++ '$' :: left)
    (hleft : left ++ after = '{' :: other) : False := by
  obtain ⟨c, gap, rfl⟩ := List.exists_cons_of_ne_nil hgap
  have htail : '{' :: (inner ++ ['}']) = gap ++ '$' :: left := (List.cons.inj h).2
  cases gap with
  | nil => simp at htail
  | cons d gap =>
      have hend : inner ++ ['}'] = gap ++ '$' :: left := (List.cons.inj htail).2
      cases left with
      | nil => simpa using congrArg List.getLast? hend
      | cons e left =>
          obtain rfl : e = '{' := (List.cons.inj hleft).1
          have hmem : '{' ∈ inner ++ ['}'] := hend ▸ by simp
          simp [hinner.opening_not_mem] at hmem

/-- A reference that stands behind the start of another stands behind its
end. -/
theorem behind_of_overlap {inner other gap after after' : List Char} (hinner : IsInside inner)
    (hgap : gap ≠ [])
    (h : (reference inner).chars ++ after = gap ++ ((reference other).chars ++ after')) :
    ∃ between, gap = (reference inner).chars ++ between := by
  rcases List.append_eq_append_iff.1 h with ⟨between, hbetween, _⟩ | ⟨left, hleft, hrest⟩
  · exact ⟨between, hbetween⟩
  · cases left with
    | nil => exact ⟨[], by simpa using hleft.symm⟩
    | cons c left =>
        obtain rfl : c = '$' := (List.cons.inj hrest).1.symm
        exact (start_not_inside hinner hgap hleft (List.cons.inj hrest).2.symm).elim

/-- Two references of a text are the same one or lie apart. -/
theorem standsAt_disjoint {text inner other : List Char} {place place' : Nat}
    (h : StandsAt text place inner) (h' : StandsAt text place' other) :
    (place = place' ∧ inner = other) ∨
      place + (reference inner).chars.length ≤ place' ∨
      place' + (reference other).chars.length ≤ place := by
  obtain ⟨hinner, before, after, rfl, rfl⟩ := h
  obtain ⟨hother, before', after', htext, rfl⟩ := h'
  -- the two cases are which of them starts first; with no gap they start together
  rcases List.append_eq_append_iff.1 htext with ⟨gap, rfl, hgap⟩ | ⟨gap, rfl, hgap⟩
  · by_cases hnil : gap = []
    · subst hnil
      have heq : inner ++ '}' :: after = other ++ '}' :: after' := by simpa [chars] using hgap
      exact Or.inl ⟨by simp, inner_eq_of_closed hinner hother heq⟩
    · obtain ⟨between, rfl⟩ := behind_of_overlap hinner hnil hgap
      refine Or.inr (Or.inl ?_)
      simp only [List.length_append]
      omega
  · by_cases hnil : gap = []
    · subst hnil
      have heq : other ++ '}' :: after' = inner ++ '}' :: after := by simpa [chars] using hgap
      exact Or.inl ⟨by simp, (inner_eq_of_closed hother hinner heq).symm⟩
    · obtain ⟨between, rfl⟩ := behind_of_overlap hother hnil hgap
      refine Or.inr (Or.inr ?_)
      simp only [List.length_append]
      omega

theorem Plain.of_append {before text : List Char} (h : Plain (before ++ text)) : Plain text := by
  rintro place inner ⟨hinner, first, after, rfl, _⟩
  exact h _ inner ⟨hinner, before ++ first, after, by simp, rfl⟩

section Scanning

/-- The scanner takes a reference that starts the text. -/
theorem reference?_reference {inner : List Char} (h : IsInside inner) (after : List Char) :
    reference? ((reference inner).chars ++ after) = some (inner, after) := by
  obtain ⟨hne, htaken⟩ := isInside_iff.1 h
  have htake : (inner ++ '}' :: after).takeWhile isInner = inner := by
    rw [List.takeWhile_append_of_pos htaken, List.takeWhile_cons_of_neg (by decide)]
    simp
  have hdrop : (inner ++ '}' :: after).dropWhile isInner = '}' :: after := by
    rw [List.dropWhile_append_of_pos htaken, List.dropWhile_cons_of_neg (by decide)]
  obtain ⟨c, cs, rfl⟩ := List.exists_cons_of_ne_nil hne
  have hchars : (reference (c :: cs)).chars ++ after =
      '$' :: '{' :: ((c :: cs) ++ '}' :: after) := by simp [chars]
  rw [hchars, reference?]
  simp only [htake, hdrop]

/-- What the scanner takes may stand between braces. -/
theorem reference?_isInside {cs inner after : List Char}
    (h : reference? cs = some (inner, after)) : IsInside inner := by
  unfold reference? at h
  split at h
  · next rest =>
      split at h
      · next c inner after htake _ =>
          cases h
          refine isInside_iff.2 ⟨List.cons_ne_nil _ _, fun d hd => ?_⟩
          rw [← htake] at hd
          exact List.all_eq_true.1 List.all_takeWhile d hd
      · cases h
  · cases h

/-- Where plain text ends in front of nothing or of a reference, the scanner
does not take a reference before that. -/
theorem reference?_plain {text after : List Char} (hplain : Plain text) (hne : text ≠ [])
    (hafter : after = [] ∨ ∃ inner rest, after = (reference inner).chars ++ rest) :
    reference? (text ++ after) = none := by
  cases hread : reference? (text ++ after) with
  | none => rfl
  | some found =>
      obtain ⟨inner, rest⟩ := found
      have hinner := reference?_isInside hread
      have htext := reference?_append hread
      have hinside : ∃ between, text = (reference inner).chars ++ between := by
        rcases hafter with rfl | ⟨other, rest', rfl⟩
        · exact ⟨rest, by simpa using htext⟩
        · exact behind_of_overlap hinner hne htext.symm
      obtain ⟨between, rfl⟩ := hinside
      exact (hplain 0 inner ⟨hinner, [], between, by simp, rfl⟩).elim

theorem splitAfter_of_some {pending cs inner after : List Char}
    (h : reference? cs = some (inner, after)) :
    splitAfter pending cs =
      Text.flush literal pending ++ .reference inner :: splitAfter [] after := by
  rw [splitAfter]
  split
  · next found rest hfound =>
      rw [h] at hfound
      cases hfound
      rfl
  · next hnone =>
      rw [h] at hnone
      cases hnone

theorem splitAfter_cons_of_none {pending rest : List Char} {c : Char}
    (h : reference? (c :: rest) = none) :
    splitAfter pending (c :: rest) = splitAfter (c :: pending) rest := by
  rw [splitAfter]
  split
  · next hsome =>
      rw [h] at hsome
      cases hsome
  · rfl

theorem splitAfter_nil (pending : List Char) :
    splitAfter pending [] = Text.flush literal pending := by
  rw [splitAfter]
  split
  · next hsome => cases hsome
  · rfl

/-- A row of references with nothing between them is cut into just these. -/
theorem splitAfter_references {row : List (List Char)} (h : ∀ inner ∈ row, IsInside inner) :
    splitAfter [] (row.flatMap fun inner => (reference inner).chars) = row.map reference := by
  induction row with
  | nil => exact splitAfter_nil []
  | cons inner rest ih =>
      obtain ⟨hinner, hrest⟩ := List.forall_mem_cons.1 h
      rw [List.flatMap_cons, splitAfter_of_some (reference?_reference hinner _), ih hrest]
      rfl

/-- Plain text is gathered whole. -/
theorem splitAfter_plain {text after : List Char} (hplain : Plain text)
    (hafter : after = [] ∨ ∃ inner rest, after = (reference inner).chars ++ rest)
    (pending : List Char) :
    splitAfter pending (text ++ after) = splitAfter (text.reverse ++ pending) after := by
  induction text generalizing pending with
  | nil => rfl
  | cons c text ih =>
      have hnone := reference?_plain hplain (List.cons_ne_nil c text) hafter
      rw [List.cons_append] at hnone ⊢
      have htail : Plain text := by
        have hsplit : Plain ([c] ++ text) := hplain
        exact hsplit.of_append
      rw [splitAfter_cons_of_none hnone, ih htail]
      simp

/-- Every fragment that is cut out as a reference has a text that may stand
between braces. -/
theorem isInside_of_mem_splitAfter {pending cs inner : List Char}
    (h : .reference inner ∈ splitAfter pending cs) : IsInside inner := by
  have hflush : ∀ pending, Fragment.reference inner ∉ Text.flush literal pending := by
    intro pending hmem
    cases Text.eq_of_mem_flush hmem
  fun_induction splitAfter pending cs with
  | case1 pending cs found after hread ih =>
      rcases List.mem_append.1 h with h | h
      · exact absurd h (hflush pending)
      · rcases List.mem_cons.1 h with heq | h
        · cases heq
          exact reference?_isInside hread
        · exact ih h
  | case2 pending _ => exact absurd h (hflush pending)
  | case3 pending c rest _ ih => exact ih h

/-- Every reference of a text is cut out. -/
theorem mem_splitAfter_of_standsAt {pending cs inner : List Char} {place : Nat}
    (h : StandsAt cs place inner) : .reference inner ∈ splitAfter pending cs := by
  fun_induction splitAfter pending cs generalizing place with
  | case1 pending cs found after hread ih =>
      have htext := reference?_append hread
      have hfirst : StandsAt cs 0 found := ⟨reference?_isInside hread, [], after, htext, rfl⟩
      -- it is the reference just taken or stands in what is left to cut
      rcases standsAt_disjoint hfirst h with ⟨_, rfl⟩ | hbehind | hbefore
      · simp
      · obtain ⟨hinner, before, rest, hcs, rfl⟩ := h
        have hne : before ≠ [] := by
          rintro rfl
          simp [chars] at hbehind
        obtain ⟨between, rfl⟩ := behind_of_overlap hfirst.1 hne (htext.symm.trans hcs)
        have hafter : after = between ++ ((reference inner).chars ++ rest) := by
          rw [htext, List.append_assoc] at hcs
          exact List.append_cancel_left hcs
        have hmem := ih ⟨hinner, between, rest, hafter, rfl⟩
        simp [hmem]
      · simp [chars] at hbefore
  | case2 pending _ =>
      obtain ⟨_, before, after, hnil, _⟩ := h
      simp [chars] at hnil
  | case3 pending c rest hread ih =>
      obtain ⟨hinner, before, after, hcs, _⟩ := h
      cases before with
      | nil =>
          rw [hcs, List.nil_append, reference?_reference hinner] at hread
          cases hread
      | cons d before => exact ih ⟨hinner, before, after, (List.cons.inj hcs).2, rfl⟩

end Scanning

/-- The references of a text are the fragments that are cut out as such. -/
theorem mem_splitAfter_iff {text inner : List Char} :
    .reference inner ∈ splitAfter [] text ↔ ∃ place, StandsAt text place inner := by
  constructor
  · intro h
    obtain ⟨before, after, hsplit⟩ := List.append_of_mem h
    have htext := splitAfter_chars [] text
    rw [hsplit, List.flatMap_append, List.flatMap_cons] at htext
    exact ⟨_, isInside_of_mem_splitAfter h, _, _, htext.symm, rfl⟩
  · rintro ⟨place, h⟩
    exact mem_splitAfter_of_standsAt h

/-- A text is plain if nothing is cut out of it as a reference. -/
theorem plain_iff {text : List Char} :
    Plain text ↔ (splitAfter [] text).filterMap inner? = [] := by
  rw [List.filterMap_eq_nil_iff]
  constructor
  · intro hplain fragment hfragment
    cases fragment with
    | literal _ => rfl
    | reference inner =>
        obtain ⟨place, hstands⟩ := mem_splitAfter_iff.1 hfragment
        exact absurd hstands (hplain place inner)
  · intro hnone place inner hstands
    have hcut := hnone _ (mem_splitAfter_iff.2 ⟨place, hstands⟩)
    cases hcut

instance (text : List Char) : Decidable (Plain text) :=
  decidable_of_iff _ plain_iff.symm

instance (inner : List Char) : Decidable (IsInside inner) :=
  decidable_of_iff (inner ≠ [] ∧ inner.all isInner = true) <| by
    rw [List.all_eq_true, isInside_iff]

end Fragment

/-- A text as a row of references, each with what stands between its braces
and the plain text behind it, after a first plain text. -/
structure Layout where
  first : List Char
  rest : List (List Char × List Char)
deriving DecidableEq, Repr

namespace Layout

open Fragment

/-- The text that a layout makes up. -/
def text (layout : Layout) : List Char :=
  layout.first ++ layout.rest.flatMap fun piece => (reference piece.1).chars ++ piece.2

/-- A layout cuts a text into its references and what is no reference. -/
structure Cuts (layout : Layout) (text : List Char) : Prop where
  text_eq : layout.text = text
  inside : ∀ piece ∈ layout.rest, IsInside piece.1
  plain_first : Plain layout.first
  plain_rest : ∀ piece ∈ layout.rest, Plain piece.2

instance (layout : Layout) (text : List Char) : Decidable (layout.Cuts text) :=
  decidable_of_iff
    (layout.text = text ∧ (∀ piece ∈ layout.rest, IsInside piece.1) ∧
      Plain layout.first ∧ ∀ piece ∈ layout.rest, Plain piece.2)
    ⟨fun ⟨htext, hinside, hfirst, hrest⟩ => ⟨htext, hinside, hfirst, hrest⟩,
      fun h => ⟨h.text_eq, h.inside, h.plain_first, h.plain_rest⟩⟩

/-- The fragments of a layout; empty plain text makes none. -/
def fragments (layout : Layout) : List Fragment :=
  Text.flush .literal layout.first.reverse ++
    layout.rest.flatMap fun piece => .reference piece.1 :: Text.flush .literal piece.2.reverse

/-- Cutting from the left finds any layout of the text. -/
theorem Cuts.splitAfter_eq {layout : Layout} {text : List Char} (h : layout.Cuts text) :
    splitAfter [] text = layout.fragments := by
  obtain ⟨first, rest⟩ := layout
  obtain ⟨rfl, hinside, hfirst, hrest⟩ := h
  induction rest generalizing first with
  | nil =>
      have hcut := splitAfter_plain hfirst (Or.inl rfl) []
      simpa [Layout.text, fragments, splitAfter_nil] using hcut
  | cons piece rest ih =>
      obtain ⟨inner, behind⟩ := piece
      have hinner : IsInside inner := hinside (inner, behind) List.mem_cons_self
      have htail := ih behind (fun p hp => hinside p (List.mem_cons_of_mem _ hp))
        (hrest (inner, behind) List.mem_cons_self)
        (fun p hp => hrest p (List.mem_cons_of_mem _ hp))
      have hread := reference?_reference hinner (Layout.text ⟨behind, rest⟩)
      have htext : Layout.text ⟨first, (inner, behind) :: rest⟩ =
          first ++ ((reference inner).chars ++ Layout.text ⟨behind, rest⟩) := by
        simp [Layout.text]
      rw [htext, splitAfter_plain hfirst (Or.inr ⟨inner, _, rfl⟩), splitAfter_of_some hread, htail]
      simp [fragments]

/-- The layout that fragments stand for. -/
def ofFragments : List Fragment → Layout
  | [] => ⟨[], []⟩
  | .literal text :: rest => ⟨text ++ (ofFragments rest).first, (ofFragments rest).rest⟩
  | .reference inner :: rest => ⟨[], (inner, (ofFragments rest).first) :: (ofFragments rest).rest⟩

theorem ofFragments_flush (text : List Char) (rest : List Fragment) :
    ofFragments (Text.flush .literal text.reverse ++ rest) =
      ⟨text ++ (ofFragments rest).first, (ofFragments rest).rest⟩ := by
  by_cases hnil : text = []
  · rw [hnil]
    rfl
  · rw [Text.flush_of_ne_nil (by simpa using hnil), List.reverse_reverse]
    rfl

theorem ofFragments_fragments (layout : Layout) : ofFragments layout.fragments = layout := by
  obtain ⟨first, rest⟩ := layout
  induction rest generalizing first with
  | nil => simpa [fragments, ofFragments] using ofFragments_flush first []
  | cons piece rest ih =>
      have hpieces := ih piece.2
      simp only [fragments] at hpieces ⊢
      rw [List.flatMap_cons, List.cons_append, ofFragments_flush, ofFragments, hpieces]
      simp

theorem exists_cuts (text : List Char) : ∃ layout : Layout, layout.Cuts text := by
  have hnil : Plain [] := by
    rintro place inner ⟨_, before, after, h, _⟩
    simp [chars] at h
  suffices ∀ pending : List Char, ∃ layout : Layout, layout.Cuts text from this []
  intro pending
  induction pending, text using splitAfter.induct with
  | case1 pending cs inner after hread ih =>
      obtain ⟨layout, htext, hinside, hfirst, hrest⟩ := ih
      refine ⟨⟨[], (inner, layout.first) :: layout.rest⟩, ?_, ?_, hnil, ?_⟩
      · rw [reference?_append hread, ← htext]
        simp [Layout.text]
      · exact List.forall_mem_cons.2 ⟨reference?_isInside hread, hinside⟩
      · exact List.forall_mem_cons.2 ⟨hfirst, hrest⟩
  | case2 pending _ => exact ⟨⟨[], []⟩, rfl, by simp, hnil, by simp⟩
  | case3 pending c rest hread ih =>
      obtain ⟨layout, htext, hinside, hfirst, hrest⟩ := ih
      refine ⟨⟨c :: layout.first, layout.rest⟩, by simp [← htext, Layout.text], hinside, ?_, hrest⟩
      rintro place inner ⟨hinner, before, after, hcs, _⟩
      change c :: layout.first = before ++ ((reference inner).chars ++ after) at hcs
      cases before with
      | nil =>
          have hstart : c :: rest = (reference inner).chars ++
              (after ++ layout.rest.flatMap fun piece => (reference piece.1).chars ++ piece.2) := by
            rw [← htext, Layout.text, ← List.cons_append, hcs]
            simp
          rw [hstart, reference?_reference hinner] at hread
          cases hread
      | cons d before =>
          exact hfirst _ inner ⟨hinner, before, after, (List.cons.inj hcs).2, rfl⟩

/-- Every text has exactly one layout. -/
theorem existsUnique_cuts (text : List Char) : ∃! layout : Layout, layout.Cuts text := by
  obtain ⟨layout, h⟩ := exists_cuts text
  refine ⟨layout, h, fun other hother => ?_⟩
  rw [← ofFragments_fragments other, ← hother.splitAfter_eq, h.splitAfter_eq,
    ofFragments_fragments]

end Layout

end LayeredConfig
