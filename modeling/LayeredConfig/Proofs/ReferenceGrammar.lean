/-
The grammar of references.  A text that ends in `/index/` and a number is a
list index or nothing, any other text with a slash is a field of a hash or
nothing, and a text without one is a scalar.  Reading follows this grammar, and
a reference that is written is read back.
-/
import LayeredConfig.Proofs.Numerals
import LayeredConfig.Reference

namespace LayeredConfig

namespace Reference

/-- A text has the form of a list index: a key that is not empty and stays on
one line, the separator, and a number with digits of any script. -/
structure IndexForm (inner key number : String) : Prop where
  text_eq : inner = key ++ "/index/" ++ number
  key_ne_empty : key ≠ ""
  oneLine : '\n' ∉ key.toList
  numeral : Text.IsNumeral number.toList

/-- What a text spells as a reference; `none` is a text that is no reference. -/
inductive Spells : String → Option Reference → Prop
  | listIndex {inner key number : String} {index : Int} : IndexForm inner key number →
      Text.Denotes number.toList index → Text.FitsSignedWord index →
        Spells inner (some (.listIndex key index))
  | outOfRange {inner key number : String} {index : Int} : IndexForm inner key number →
      Text.Denotes number.toList index → ¬ Text.FitsSignedWord index → Spells inner none
  | otherScript {inner key number : String} {c : Char} : IndexForm inner key number →
      c ∈ number.toList → 128 ≤ c.toNat → Spells inner none
  | hashField {key field : String} :
      (∀ list number, ¬ IndexForm (key ++ "/" ++ field) list number) →
      '/' ∉ key.toList → key ≠ "" → field ≠ "" →
        Spells (key ++ "/" ++ field) (some (.hashField key field))
  | halfEmpty {key field : String} :
      (∀ list number, ¬ IndexForm (key ++ "/" ++ field) list number) →
      '/' ∉ key.toList → key = "" ∨ field = "" → Spells (key ++ "/" ++ field) none
  | scalar {key : String} : '/' ∉ key.toList → Spells key (some (.scalar key))

section Numbers

variable {cs : List Char}

theorem slash_not_mem_of_isNumeral (h : Text.IsNumeral cs) : '/' ∉ cs := by
  obtain ⟨digits, hcs, _, hdigits⟩ := h
  intro hmem
  have hslash : '/' ∈ digits := by
    rcases hcs with rfl | rfl
    · exact hmem
    · simpa using hmem
  exact absurd (hdigits _ hslash) (by decide)

theorem looksLikeNumber_iff : looksLikeNumber cs = true ↔ Text.IsNumeral cs := by
  have hcheck : ∀ digits : List Char,
      (!digits.isEmpty && digits.all Text.isDecimalDigit) = true ↔
        digits ≠ [] ∧ ∀ c ∈ digits, Text.isDecimalDigit c = true := by simp
  simp only [looksLikeNumber]
  constructor
  · intro h
    split at h
    · exact ⟨_, Or.inr rfl, (hcheck _).1 h⟩
    · exact ⟨cs, Or.inl rfl, (hcheck _).1 h⟩
  · rintro ⟨digits, hcs, hdigits⟩
    split
    · rcases hcs with rfl | hcs
      · exact absurd (hdigits.2 '-' List.mem_cons_self) (by decide)
      · obtain rfl := (List.cons.inj hcs).2
        exact (hcheck _).2 hdigits
    · next hminus =>
        rcases hcs with rfl | rfl
        · exact (hcheck _).2 hdigits
        · exact absurd rfl (hminus digits)

end Numbers

section Separators

variable {cs key number field : List Char}

theorem ne_slash_of_not_mem (h : '/' ∉ cs) : ∀ c ∈ cs, (c != '/') = true := by
  intro c hc
  rw [bne_iff_ne]
  rintro rfl
  exact h hc

/-- The separator, read from its end. -/
theorem reverse_indexText (key number : List Char) :
    (key ++ "/index/".toList ++ number).reverse =
      number.reverse ++ '/' :: 'x' :: 'e' :: 'd' :: 'n' :: 'i' :: '/' :: key.reverse := by
  simp

/-- A text with the form of a list index is cut at its last separator. -/
theorem indexParts?_eq_some_iff :
    indexParts? cs = some (key, number) ↔
      cs = key ++ "/index/".toList ++ number ∧ key ≠ [] ∧ '\n' ∉ key ∧ Text.IsNumeral number := by
  constructor
  · intro h
    simp only [indexParts?] at h
    split at h
    · next back hdrop =>
        split at h
        · next hcheck =>
            obtain ⟨rfl, rfl⟩ := Prod.mk.inj (Option.some.inj h)
            simp only [Bool.and_eq_true, Bool.not_eq_true', List.isEmpty_eq_false_iff,
              List.contains_eq_mem, decide_eq_false_iff_not, looksLikeNumber_iff] at hcheck
            obtain ⟨⟨hkey, hline⟩, hnumeral⟩ := hcheck
            refine ⟨?_, by simpa using hkey, by simpa using hline, hnumeral⟩
            have happend := List.takeWhile_append_dropWhile (p := (· != '/')) (l := cs.reverse)
            rw [← List.reverse_inj, reverse_indexText, List.reverse_reverse, List.reverse_reverse,
              ← hdrop, happend]
        · contradiction
    · contradiction
  · rintro ⟨rfl, hkey, hline, hnumeral⟩
    have hnumber : ∀ c ∈ number.reverse, (c != '/') = true := by
      apply ne_slash_of_not_mem
      rw [List.mem_reverse]
      exact slash_not_mem_of_isNumeral hnumeral
    simp only [indexParts?]
    rw [reverse_indexText, List.takeWhile_append_of_pos hnumber,
      List.dropWhile_append_of_pos hnumber, List.takeWhile_cons_of_neg (by decide),
      List.dropWhile_cons_of_neg (by decide)]
    simp [hkey, hline, looksLikeNumber_iff.2 hnumeral]

theorem splitAtSlash?_append (hkey : '/' ∉ key) :
    splitAtSlash? (key ++ '/' :: field) = some (key, field) := by
  have hbefore := ne_slash_of_not_mem hkey
  rw [splitAtSlash?, List.dropWhile_append_of_pos hbefore, List.dropWhile_cons_of_neg (by decide),
    List.takeWhile_append_of_pos hbefore, List.takeWhile_cons_of_neg (by decide)]
  simp

theorem splitAtSlash?_of_not_mem (h : '/' ∉ cs) : splitAtSlash? cs = none := by
  have hdrop : (cs ++ []).dropWhile (· != '/') = [].dropWhile (· != '/') :=
    List.dropWhile_append_of_pos (ne_slash_of_not_mem h)
  rw [List.append_nil, List.dropWhile_nil] at hdrop
  rw [splitAtSlash?, hdrop]

end Separators

section Parsing

variable {inner key number field : String} {result : Option Reference}

theorem indexForm_iff :
    IndexForm inner key number ↔ indexParts? inner.toList = some (key.toList, number.toList) := by
  rw [indexParts?_eq_some_iff, ← String.toList_append, ← String.toList_append, String.toList_inj,
    ne_eq, String.toList_eq_nil_iff]
  constructor
  · intro h
    exact ⟨h.text_eq, h.key_ne_empty, h.oneLine, h.numeral⟩
  · rintro ⟨htext, hkey, hline, hnumeral⟩
    exact ⟨htext, hkey, hline, hnumeral⟩

theorem indexParts?_of_no_form (hform : ∀ list number, ¬ IndexForm inner list number) :
    indexParts? inner.toList = none := by
  rcases hparts : indexParts? inner.toList with _ | ⟨list, number⟩
  · rfl
  · have h : IndexForm inner (String.ofList list) (String.ofList number) := by
      rw [indexForm_iff, String.toList_ofList, String.toList_ofList, hparts]
    exact absurd h (hform _ _)

theorem parse?_of_indexForm (h : IndexForm inner key number) :
    parse? inner = (Text.signedWord? number.toList).map (listIndex key) := by
  rw [parse?, indexForm_iff.1 h]
  simp only [String.ofList_toList]

theorem parse?_of_split (hform : ∀ list number, ¬ IndexForm (key ++ "/" ++ field) list number)
    (hkey : '/' ∉ key.toList) :
    parse? (key ++ "/" ++ field) =
      if key = "" ∨ field = "" then none else some (hashField key field) := by
  have htext : (key ++ "/" ++ field).toList = key.toList ++ '/' :: field.toList := by simp
  rw [parse?, indexParts?_of_no_form hform, htext]
  simp only [splitAtSlash?_append hkey]
  simp

theorem parse?_of_slash_not_mem (h : '/' ∉ inner.toList) : parse? inner = some (.scalar inner) := by
  have hform : ∀ list number, ¬ IndexForm inner list number := by
    intro list number hlist
    apply h
    rw [hlist.text_eq]
    simp
  rw [parse?, indexParts?_of_no_form hform]
  simp only [splitAtSlash?_of_not_mem h]

theorem IndexForm.head_number (h : IndexForm inner key number) :
    number.toList.head? ≠ some '+' := by
  obtain ⟨digits, hnumber, hne, hdigits⟩ := h.numeral
  rcases hnumber with hnumber | hnumber
  · rw [hnumber]
    intro hplus
    exact absurd (hdigits _ (List.mem_of_head? hplus)) (by decide)
  · rw [hnumber, List.head?_cons]
    decide

theorem IndexForm.signedWord?_iff (h : IndexForm inner key number) {index : Int} :
    Text.signedWord? number.toList = some index ↔
      Text.Denotes number.toList index ∧ Text.FitsSignedWord index :=
  Text.signedWord?_eq_some_iff h.head_number

theorem Spells.parse?_eq (h : Spells inner result) : parse? inner = result := by
  induction h with
  | listIndex hform hdenotes hfits =>
      rw [parse?_of_indexForm hform, hform.signedWord?_iff.2 ⟨hdenotes, hfits⟩]
      rfl
  | outOfRange hform hdenotes hbeyond =>
      rw [parse?_of_indexForm hform, Option.map_eq_none_iff, Option.eq_none_iff_forall_ne_some]
      intro read hread
      obtain ⟨hother, hfits⟩ := hform.signedWord?_iff.1 hread
      exact hbeyond (hother.unique hdenotes ▸ hfits)
  | otherScript hform hmem hbeyond =>
      rw [parse?_of_indexForm hform, Option.map_eq_none_iff, Option.eq_none_iff_forall_ne_some]
      intro read hread
      obtain ⟨hdenotes, _⟩ := hform.signedWord?_iff.1 hread
      exact absurd (hdenotes.isAscii _ hmem) (Nat.not_lt.2 hbeyond)
  | hashField hform hslash hkey hfield =>
      rw [parse?_of_split hform hslash, if_neg (not_or.2 ⟨hkey, hfield⟩)]
  | halfEmpty hform hslash hempty => rw [parse?_of_split hform hslash, if_pos hempty]
  | scalar hslash => exact parse?_of_slash_not_mem hslash

theorem exists_split_of_slash_mem (h : '/' ∈ inner.toList) :
    ∃ key field, inner = key ++ "/" ++ field ∧ '/' ∉ key.toList := by
  obtain ⟨key, field, htext, hkey⟩ := List.eq_append_cons_of_mem h
  refine ⟨String.ofList key, String.ofList field, ?_, by rwa [String.toList_ofList]⟩
  rw [← String.toList_inj, htext]
  simp

theorem spells_parse? (inner : String) : Spells inner (parse? inner) := by
  by_cases hform : ∃ key number, IndexForm inner key number
  · obtain ⟨key, number, hform⟩ := hform
    rw [parse?_of_indexForm hform]
    rcases hword : Text.signedWord? number.toList with _ | index
    · rcases hform.numeral.denotes_or with ⟨index, hdenotes⟩ | ⟨c, hc, hbeyond⟩
      · refine .outOfRange hform hdenotes fun hfits => ?_
        rw [hform.signedWord?_iff.2 ⟨hdenotes, hfits⟩] at hword
        contradiction
      · exact .otherScript hform hc hbeyond
    · obtain ⟨hdenotes, hfits⟩ := hform.signedWord?_iff.1 hword
      exact .listIndex hform hdenotes hfits
  · have hnone : ∀ list number, ¬ IndexForm inner list number :=
      fun list number h => hform ⟨list, number, h⟩
    by_cases hslash : '/' ∈ inner.toList
    · obtain ⟨key, field, rfl, hkey⟩ := exists_split_of_slash_mem hslash
      rw [parse?_of_split hnone hkey]
      by_cases hempty : key = "" ∨ field = ""
      · rw [if_pos hempty]
        exact .halfEmpty hnone hkey hempty
      · rw [if_neg hempty]
        exact .hashField hnone hkey (not_or.1 hempty).1 (not_or.1 hempty).2
    · rw [parse?_of_slash_not_mem hslash]
      exact .scalar hslash

theorem parse?_eq_iff : parse? inner = result ↔ Spells inner result :=
  ⟨fun h => h ▸ spells_parse? inner, Spells.parse?_eq⟩

/-- No separator stands behind the one that ends the key of a list index: the
number is behind that, and has no slash. -/
theorem IndexForm.length_le (h : IndexForm inner key number) {before after : String}
    (htext : inner = before ++ "/index/" ++ after) : before.length ≤ key.length := by
  have hslash := slash_not_mem_of_isNumeral h.numeral
  have hcuts := congrArg String.toList (h.text_eq.symm.trans htext)
  simp only [String.toList_append] at hcuts
  rw [← String.length_toList, ← String.length_toList]
  rcases List.append_eq_append_iff.1 hcuts with ⟨gap, hgap, hnumber⟩ | ⟨gap, hgap, _⟩
  · rcases List.eq_nil_or_concat gap with rfl | ⟨init, last, rfl⟩
    · have hlength := congrArg List.length hgap
      simp only [List.length_append, List.length_nil] at hlength
      omega
    · -- the gap ends as the separator does, in a slash
      have hlast : '/' = last := by
        have hends := congrArg List.getLast? hgap
        rw [List.concat_eq_append, ← List.append_assoc, List.getLast?_concat] at hends
        simpa using hends
      refine absurd ?_ hslash
      rw [hnumber, hlast]
      simp
  · have hlength := congrArg List.length hgap
    simp only [List.length_append] at hlength
    omega

/-- A reference that was read is read back from its written form. -/
theorem Spells.render (h : Spells inner result) :
    ∀ reference ∈ result, Spells reference.render (some reference) ∧
      ((∀ key index, reference ≠ .listIndex key index) → reference.render = inner) := by
  induction h with
  | @listIndex inner key number index hform hdenotes hfits =>
      rintro _ ⟨⟩
      have hwritten := Text.denotes_toString index
      have hagain : IndexForm (key ++ "/index/" ++ toString index) key (toString index) :=
        ⟨rfl, hform.key_ne_empty, hform.oneLine, hwritten.isNumeral⟩
      exact ⟨.listIndex hagain hwritten hfits, fun hother => absurd rfl (hother key index)⟩
  | hashField hform hslash hkey hfield =>
      rintro _ ⟨⟩
      exact ⟨.hashField hform hslash hkey hfield, fun _ => rfl⟩
  | scalar hslash =>
      rintro _ ⟨⟩
      exact ⟨.scalar hslash, fun _ => rfl⟩
  | _ =>
      intro reference hnone
      contradiction

/-- Reading a reference follows the grammar, which gives every text one meaning.
The key of a list index reaches to the last separator.  A reference that is
written is read back, and unless it is a list index it is written as it was. -/
theorem parse?_follows_grammar (inner : String) :
    (∀ result, parse? inner = result ↔ Spells inner result) ∧
    (∀ key number, IndexForm inner key number →
      ∀ before after, inner = before ++ "/index/" ++ after → before.length ≤ key.length) ∧
    ∀ reference, parse? inner = some reference →
      parse? reference.render = some reference ∧
        ((∀ key index, reference ≠ .listIndex key index) → reference.render = inner) := by
  refine ⟨fun _ => parse?_eq_iff, fun _ _ hform _ _ => hform.length_le, ?_⟩
  intro reference hparse
  obtain ⟨hspells, hsame⟩ := (parse?_eq_iff.1 hparse).render reference rfl
  exact ⟨hspells.parse?_eq, hsame⟩

/-- The key may hold the separator itself.  Zeros in front of the number are
not written again. -/
theorem parse?_follows_grammar_nested :
    parse? "a/index/b/index/-007" = some (.listIndex "a/index/b" (-7)) ∧
      (listIndex "a/index/b" (-7)).render = "a/index/b/index/-7" ∧
      parse? "a/index/b/index/-7" = some (.listIndex "a/index/b" (-7)) := by
  have hparse : parse? "a/index/b/index/-007" = some (.listIndex "a/index/b" (-7)) := by
    decide +kernel
  have hrender : (listIndex "a/index/b" (-7)).render = "a/index/b/index/-7" := by
    decide +kernel
  obtain ⟨hagain, _⟩ := (parse?_follows_grammar "a/index/b/index/-007").2.2 _ hparse
  rw [hrender] at hagain
  exact ⟨hparse, hrender, hagain⟩

end Parsing

end Reference

end LayeredConfig
