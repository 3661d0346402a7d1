/-
What is written spells what it was written from.  A string is written with an
escape for every character that could end it or may not stand in it, so what it
holds is never taken for what stands around it.
-/
import LayeredConfig.Proofs.Json.Reading

namespace LayeredConfig.Json

section Strings

variable {cs text : List Char}

theorem isHexDigit_hexDigit {n : Nat} (h : n < 16) : IsHexDigit (hexDigit n) n := by
  unfold hexDigit
  split
  · next hdecimal => exact .decimal hdecimal
  · next hdecimal =>
      have hsmall : IsHexDigit (Char.ofNat ('a'.toNat + (n - 10))) (10 + (n - 10)) :=
        .small (by omega)
      rwa [Nat.add_sub_cancel' (Nat.le_of_not_lt hdecimal)] at hsmall

/-- A control is written as the unit that it is. -/
theorem namesUnit_control {n : Nat} (h : n < 0x20) :
    NamesUnit ['0', '0', hexDigit (n / 16), hexDigit (n % 16)] n := by
  have hzero : IsHexDigit '0' 0 := IsHexDigit.decimal (n := 0) (by decide)
  have hdigits := NamesUnit.digits hzero hzero (isHexDigit_hexDigit (n := n / 16) (by omega))
    (isHexDigit_hexDigit (n := n % 16) (by omega))
  have hvalue : 0 * 0x1000 + 0 * 0x100 + n / 16 * 0x10 + n % 16 = n := by omega
  rwa [hvalue] at hdigits

theorem spellsText_escapeChar (c : Char) (h : SpellsText cs text) :
    SpellsText (escapeChar c ++ cs) (c :: text) := by
  have hletter : ∀ pair ∈ letterEscapes, SpellsText (['\\', pair.1] ++ cs) (pair.2 :: text) :=
    fun pair hpair => .letter hpair h
  by_cases hquote : c = '"'
  · rw [hquote]
    exact hletter ('"', '"') (by decide)
  by_cases hslash : c = '\\'
  · rw [hslash]
    exact hletter ('\\', '\\') (by decide)
  by_cases hback : c = '\x08'
  · rw [hback]
    exact hletter ('b', '\x08') (by decide)
  by_cases htab : c = '\t'
  · rw [htab]
    exact hletter ('t', '\t') (by decide)
  by_cases hline : c = '\n'
  · rw [hline]
    exact hletter ('n', '\n') (by decide)
  by_cases hform : c = '\x0c'
  · rw [hform]
    exact hletter ('f', '\x0c') (by decide)
  by_cases hreturn : c = '\r'
  · rw [hreturn]
    exact hletter ('r', '\r') (by decide)
  rw [escapeChar, if_neg hquote, if_neg hslash, if_neg hback, if_neg htab, if_neg hline,
    if_neg hform, if_neg hreturn]
  by_cases hcontrol : c.toNat < 0x20
  · rw [if_pos hcontrol]
    exact .unit (namesUnit_control hcontrol) h
  · rw [if_neg hcontrol]
    exact .plain (Nat.le_of_not_lt hcontrol) hquote hslash h

theorem spellsText_escaped (text : List Char) : SpellsText (text.flatMap escapeChar) text := by
  induction text with
  | nil => exact .nil
  | cons c text ih => exact spellsText_escapeChar c ih

theorem spellsString_quote (text : String) : SpellsString (quote text) text :=
  .quoted (spellsText_escaped text.toList)

end Strings

section Values

/-- The text that a value is written as spells it. -/
def IsLegible (value : Json) : Prop := SpellsBare value.chars value

theorem isGap_nil : IsGap [] := nofun

theorem SpellsBare.spells {cs : List Char} {value : Json} (h : SpellsBare cs value) :
    Spells cs value := by
  have hpadded := Spells.padded isGap_nil h isGap_nil
  rwa [List.nil_append, List.append_nil] at hpadded

theorem isLegible_text (s : String) : (text s).IsLegible :=
  .string (spellsString_quote s)

theorem spellsItems_itemChars {items : List Json} (h : items ≠ [])
    (hitems : ∀ item ∈ items, item.IsLegible) : SpellsItems (itemChars items) items := by
  induction items with
  | nil => exact absurd rfl h
  | cons item rest ih =>
      obtain ⟨hitem, hrest⟩ := List.forall_mem_cons.1 hitems
      cases rest with
      | nil => exact .last hitem.spells
      | cons next rest => exact .more hitem.spells (ih (List.cons_ne_nil _ _) hrest)

theorem isLegible_array {items : List Json} (h : ∀ item ∈ items, item.IsLegible) :
    (array items).IsLegible := by
  by_cases hempty : items = []
  · subst hempty
    exact .emptyArray isGap_nil
  · exact .array (spellsItems_itemChars hempty h)

theorem spellsMember_chars {name : String} {value : Json} (h : value.IsLegible) :
    SpellsMember (quote name ++ ':' :: value.chars) (some name, value) :=
  .named isGap_nil (spellsString_quote name) isGap_nil h.spells

theorem spellsMembers_memberChars {members : List (Option String × Json)} (h : members ≠ [])
    (hmembers : ∀ member ∈ members, member.1.isSome = true ∧ member.2.IsLegible) :
    SpellsMembers (memberChars members) members := by
  induction members with
  | nil => exact absurd rfl h
  | cons member rest ih =>
      obtain ⟨⟨hname, hvalue⟩, hrest⟩ := List.forall_mem_cons.1 hmembers
      obtain ⟨name, value⟩ := member
      obtain ⟨name, rfl⟩ := Option.isSome_iff_exists.1 hname
      have hmember : SpellsMember (quote name ++ ':' :: value.chars) (some name, value) :=
        spellsMember_chars hvalue
      cases rest with
      | nil => exact .last hmember
      | cons next rest =>
          have hmore := SpellsMembers.more hmember (ih (List.cons_ne_nil _ _) hrest)
          rw [List.append_assoc] at hmore
          exact hmore

theorem isLegible_object {members : List (Option String × Json)}
    (h : ∀ member ∈ members, member.1.isSome = true ∧ member.2.IsLegible) :
    (object members).IsLegible := by
  by_cases hempty : members = []
  · subst hempty
    exact .emptyObject isGap_nil
  · exact .object (spellsMembers_memberChars hempty h)

/-- Values that are written item by item. -/
theorem isLegible_array_map {α : Type} {write : α → Json} (h : ∀ a, (write a).IsLegible)
    (entries : List α) : (array (entries.map write)).IsLegible := by
  apply isLegible_array
  intro item hitem
  obtain ⟨entry, _, rfl⟩ := List.mem_map.1 hitem
  exact h entry

/-- Values that are written name by name. -/
theorem isLegible_object_map {α : Type} {write : α → Json} (h : ∀ a, (write a).IsLegible)
    (entries : List (String × α)) :
    (object (entries.map fun entry => (some entry.1, write entry.2))).IsLegible := by
  apply isLegible_object
  intro member hmember
  obtain ⟨entry, _, rfl⟩ := List.mem_map.1 hmember
  exact ⟨rfl, h entry.2⟩

theorem isLegible_pair {name other : String} {value second : Json} (h : value.IsLegible)
    (h' : second.IsLegible) : (object [(some name, value), (some other, second)]).IsLegible := by
  apply isLegible_object
  rw [List.forall_mem_cons, List.forall_mem_singleton]
  exact ⟨⟨rfl, h⟩, ⟨rfl, h'⟩⟩

theorem IsLegible.spells_render {value : Json} (h : value.IsLegible) :
    Spells value.render.toList value := by
  rw [render, String.toList_ofList]
  exact h.spells

end Values

end LayeredConfig.Json
