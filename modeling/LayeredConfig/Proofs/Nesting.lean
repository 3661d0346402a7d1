/-
References inside the values of references.  A value can be expanded only if
everything that is nested in it can, one level deeper each time, so an endless
nesting is never answered; and where the limit on the depth stops an expansion
there is a nesting as deep as the limit.
-/
import LayeredConfig.Proofs.Expansion

namespace LayeredConfig

open LayeredConfig.Action

/-- A reference as it is written, if it means something. -/
structure Mention where
  inner : List Char
  reference : Reference
  inside : Fragment.IsInside inner
  parsed : Reference.parse? (String.ofList inner) = some reference

namespace Mention

/-- The text of a reference. -/
def text (mention : Mention) : String :=
  String.ofList (Fragment.reference mention.inner).chars

/-- The reference stands somewhere in a value. -/
def OccursIn (mention : Mention) (value : String) : Prop :=
  ∃ place, Fragment.StandsAt value.toList place mention.inner

instance (mention : Mention) (value : String) : Decidable (mention.OccursIn value) :=
  decidable_of_iff _ Fragment.mem_splitAfter_iff

theorem mem_inners_iff {value inner : String} :
    inner ∈ Fragment.inners (Fragment.split value) ↔
      ∃ place, Fragment.StandsAt value.toList place inner.toList := by
  rw [← Fragment.mem_splitAfter_iff, Fragment.inners, List.mem_eraseDups, List.mem_filterMap]
  constructor
  · rintro ⟨fragment, hfragment, hinner⟩
    cases fragment with
    | literal _ => cases hinner
    | reference found =>
        cases hinner
        rwa [String.toList_ofList]
  · intro h
    exact ⟨_, h, by rw [Fragment.inner?, String.ofList_toList]⟩

/-- The references of a value that mean something are its mentions. -/
theorem mem_references_iff {value inner : String} {reference : Reference} :
    (inner, reference) ∈ Fragment.references (Fragment.split value) ↔
      ∃ mention : Mention, mention.OccursIn value ∧
        inner = String.ofList mention.inner ∧ reference = mention.reference := by
  simp only [Fragment.references, List.mem_filterMap, Option.map_eq_some_iff, mem_inners_iff]
  constructor
  · rintro ⟨found, hoccurs, read, hread, h⟩
    cases h
    obtain ⟨place, hstands⟩ := hoccurs
    have hparsed : Reference.parse? (String.ofList inner.toList) = some reference := by
      rwa [String.ofList_toList]
    exact ⟨⟨inner.toList, reference, hstands.1, hparsed⟩, ⟨place, hstands⟩,
      String.ofList_toList.symm, rfl⟩
  · rintro ⟨mention, hoccurs, rfl, rfl⟩
    refine ⟨String.ofList mention.inner, ?_, mention.reference, mention.parsed, rfl⟩
    rwa [String.toList_ofList]

theorem split_text (mention : Mention) :
    Fragment.split mention.text = [.reference mention.inner] := by
  have hrow := Fragment.splitAfter_references (List.forall_mem_singleton.2 mention.inside)
  rw [List.flatMap_singleton] at hrow
  rw [Fragment.split, text, String.toList_ofList, hrow, List.map_singleton]

/-- The text of a reference has this reference and no other. -/
theorem references_text (mention : Mention) :
    Fragment.references (Fragment.split mention.text) =
      [(String.ofList mention.inner, mention.reference)] := by
  simp [split_text, Fragment.references, Fragment.inners, Fragment.inner?, List.eraseDups_cons,
    mention.parsed]

end Mention

/-- A value that is nothing but a reference has the value of the reference. -/
theorem Engine.expandAt_text {σ : Type} (e : Engine σ) (scope : Scope) {depth : Nat}
    (hdepth : depth < e.settings.maxSubstitutionDepth) (mention : Mention) :
    e.expandAt scope depth mention.text = e.resolveAt scope (depth + 1) mention.reference := by
  rw [expandAt, mention.references_text, mention.split_text]
  simp [dif_neg (Nat.not_le.2 hdepth), resolveAll, resolveAt, Fragment.fill]

namespace View

variable {v : View} {depth : Nat} {value : String}

/-- A reference occurs in a stored text that resolving another one reads. -/
def Nested (v : View) (outer inner : Mention) : Prop :=
  ∃ raw ∈ v.rawValues outer.reference, inner.OccursIn raw

instance (v : View) (outer inner : Mention) : Decidable (v.Nested outer inner) :=
  inferInstanceAs (Decidable (∃ raw ∈ v.rawValues outer.reference, inner.OccursIn raw))

/-- What occurs in a value that can be expanded can be resolved one level
deeper, below the limit. -/
theorem expansionAt_ok_mention {result : String} (h : v.expansionAt depth value = .ok result)
    {mention : Mention} (hoccurs : mention.OccursIn value) :
    depth < v.settings.maxSubstitutionDepth ∧
      ∃ text, v.resolved (v.expansionAt (depth + 1)) mention.reference = .ok text := by
  have hmem := Mention.mem_references_iff.2 ⟨mention, hoccurs, rfl, rfl⟩
  rw [expansionAt] at h
  cases hreferences : Fragment.references (Fragment.split value) with
  | nil =>
      rw [hreferences] at hmem
      cases hmem
  | cons first others =>
      rw [hreferences] at hmem
      simp only [hreferences] at h
      split at h
      · cases h
      · next hlimit =>
          obtain ⟨table, htable, _⟩ := bind_eq_ok_iff.1 h
          obtain ⟨entry, hentry⟩ := mapM_ok_step htable _ hmem
          obtain ⟨text, htext, _⟩ := bind_eq_ok_iff.1 hentry
          exact ⟨Nat.lt_of_not_le hlimit, text, htext⟩

theorem resolved_ok_nested {outer inner : Mention} {text : String}
    (h : v.resolved (v.expansionAt depth) outer.reference = .ok text)
    (hnested : v.Nested outer inner) :
    depth < v.settings.maxSubstitutionDepth ∧
      ∃ text, v.resolved (v.expansionAt (depth + 1)) inner.reference = .ok text := by
  obtain ⟨raw, hraw, hoccurs⟩ := hnested
  obtain ⟨expanded, hexpanded⟩ := resolved_ok_rawValues h raw hraw
  exact expansionAt_ok_mention hexpanded hoccurs

/-- Where there is always a reference further down, none of them is ever
resolved: each would have to be, one level below the one before it. -/
theorem not_resolved_of_endless {endless : Mention → Prop}
    (hstep : ∀ outer, endless outer → ∃ inner, v.Nested outer inner ∧ endless inner)
    {mention : Mention} (hmention : endless mention) (text : String) :
    v.resolved (v.expansionAt depth) mention.reference ≠ .ok text := by
  induction hleft : v.settings.maxSubstitutionDepth - depth generalizing depth mention text with
  | zero =>
      intro hok
      obtain ⟨inner, hnested, _⟩ := hstep mention hmention
      have := (resolved_ok_nested hok hnested).1
      omega
  | succ left ih =>
      intro hok
      obtain ⟨inner, hnested, hinner⟩ := hstep mention hmention
      obtain ⟨_, deeper, hdeeper⟩ := resolved_ok_nested hok hnested
      exact ih hinner deeper (by omega) hdeeper

/-- A failure at the limit comes with a nesting that goes from the value down
to the limit and ends in the reference that is named. -/
theorem expansionAt_cycle (hdepth : depth ≤ v.settings.maxSubstitutionDepth)
    {reference : String} {limit : Nat}
    (h : v.expansionAt depth value = .error (.substitutionCycle reference limit)) :
    limit = v.settings.maxSubstitutionDepth ∧ ∃ chain : Nat → Mention,
      (chain 0).OccursIn value ∧
      (∀ i < v.settings.maxSubstitutionDepth - depth, v.Nested (chain i) (chain (i + 1))) ∧
      reference = (chain (v.settings.maxSubstitutionDepth - depth)).text := by
  induction hleft : v.settings.maxSubstitutionDepth - depth generalizing depth value with
  | zero =>
      rw [expansionAt] at h
      cases hreferences : Fragment.references (Fragment.split value) with
      | nil =>
          rw [hreferences] at h
          cases h
      | cons first others =>
          obtain ⟨inner, meant⟩ := first
          have hmem : (inner, meant) ∈ Fragment.references (Fragment.split value) := by
            rw [hreferences]
            exact List.mem_cons_self
          obtain ⟨mention, hoccurs, rfl, rfl⟩ := Mention.mem_references_iff.1 hmem
          have hlimit : v.settings.maxSubstitutionDepth ≤ depth := by omega
          simp only [hreferences, dif_pos hlimit] at h
          obtain ⟨htext, rfl⟩ := Failure.substitutionCycle.inj (Except.error.inj h)
          refine ⟨by omega, fun _ => mention, hoccurs, by simp, ?_⟩
          rw [← htext, String.toList_ofList]
          rfl
  | succ left ih =>
      rw [expansionAt_of_lt (by omega)] at h
      obtain ⟨⟨inner, meant⟩, hmem, hentry⟩ := mapM_error_step (bind_pure_eq_error_iff.1 h)
      obtain ⟨mention, hoccurs, rfl, rfl⟩ := Mention.mem_references_iff.1 hmem
      rcases resolved_error_rawValues (bind_pure_eq_error_iff.1 hentry) with
        ⟨raw, hraw, hexpanded⟩ | hmissing
      · obtain ⟨hlimit, chain, hfirst, hlinks, hlast⟩ := ih (by omega) hexpanded (by omega)
        -- the reference that leads down goes in front of the chain found below
        refine ⟨hlimit, fun i => Nat.casesOn i mention chain, hoccurs, ?_, hlast⟩
        intro i hi
        cases i with
        | zero => exact ⟨raw, hraw, hfirst⟩
        | succ i => exact hlinks i (by omega)
      · cases hmissing

end View

namespace MemoryStore

variable (settings : Settings) (scope : Scope) (order : FieldOrder) {m : MemoryStore}

/-- A cycle of references is never answered, whatever the limit: a request
fails if a text that it expands mentions a reference from which references
nested in each other lead back to one of them. -/
theorem serve_fails_on_cycle (havailable : m.unavailable = false) (request : Request)
    {chain : Nat → Mention} {last back : Nat}
    (hfirst : ∃ text ∈ (m.view settings scope order).texts request, (chain 0).OccursIn text)
    (hlinks : ∀ i < last, (m.view settings scope order).Nested (chain i) (chain (i + 1)))
    (hback : back < last) (hloop : (chain last).reference = (chain back).reference) :
    ∃ failure, (((engine settings order).serve scope request).outcome m).1 = .error failure := by
  let v := m.view settings scope order
  -- every reference of the chain has a successor on it; the last has that of its equal
  let endless : Mention → Prop := fun mention =>
    ∃ i < last, (chain i).reference = mention.reference
  have hstep : ∀ outer, endless outer → ∃ inner, v.Nested outer inner ∧ endless inner := by
    rintro outer ⟨i, hi, heq⟩
    have hnested : v.Nested outer (chain (i + 1)) := by
      rw [View.Nested, ← heq]
      exact hlinks i hi
    by_cases hnext : i + 1 < last
    · exact ⟨chain (i + 1), hnested, i + 1, hnext, rfl⟩
    · obtain rfl : i + 1 = last := by omega
      exact ⟨chain (i + 1), hnested, back, hback, hloop.symm⟩
  rw [serve_result settings scope order havailable]
  cases hreply : v.reply (v.expansionAt 0) request with
  | error failure => exact ⟨failure, rfl⟩
  | ok answer =>
      obtain ⟨text, htext, hoccurs⟩ := hfirst
      obtain ⟨expanded, hexpanded⟩ := View.reply_ok_texts hreply text htext
      obtain ⟨_, value, hvalue⟩ := View.expansionAt_ok_mention hexpanded hoccurs
      have hmention : endless (chain 0) := ⟨0, by omega, rfl⟩
      exact (View.not_resolved_of_endless hstep hmention value hvalue).elim

/-- A scalar, a field and an entry that refer to each other in a ring. -/
def ring : MemoryStore where
  entries := NameMap.ofList
    [("cfg:default:a", .string "x$\x7bh/f\x7d"),
      ("cfg:default:h", .hash (NameMap.ofList [("f", "$\x7bl/index/0\x7d")])),
      ("cfg:default:l", .list ["$\x7b\x7d$\x7ba\x7d"])]

/-- The references of the ring, from the entry on. -/
def ringChain (i : Nat) : Mention :=
  if i % 3 = 0 then ⟨"l/index/0".toList, .listIndex "l" 0, by decide +kernel, by decide +kernel⟩
  else if i % 3 = 1 then ⟨"a".toList, .scalar "a", by decide +kernel, by decide +kernel⟩
  else ⟨"h/f".toList, .hashField "h" "f", by decide +kernel, by decide +kernel⟩

/-- Even a limit far beyond the length of the ring gives no answer. -/
theorem serve_fails_on_cycle_ring :
    ring.unavailable = false ∧
      (∃ text ∈ (ring.view { maxSubstitutionDepth := 1000 } .empty .byName).texts
        (.hashField "h" "f"), (ringChain 0).OccursIn text) ∧
      (∀ i < 3, (ring.view { maxSubstitutionDepth := 1000 } .empty .byName).Nested
        (ringChain i) (ringChain (i + 1))) ∧
      (ringChain 3).reference = (ringChain 0).reference ∧
      ∃ failure, (((engine { maxSubstitutionDepth := 1000 } .byName).serve .empty
        (.hashField "h" "f")).outcome ring).1 = .error failure := by
  have havailable : ring.unavailable = false := rfl
  have hfirst : ∃ text ∈ (ring.view { maxSubstitutionDepth := 1000 } .empty .byName).texts
      (.hashField "h" "f"), (ringChain 0).OccursIn text := by decide +kernel
  have hlinks : ∀ i < 3, (ring.view { maxSubstitutionDepth := 1000 } .empty .byName).Nested
      (ringChain i) (ringChain (i + 1)) := by decide +kernel
  have hloop : (ringChain 3).reference = (ringChain 0).reference := by decide +kernel
  exact ⟨havailable, hfirst, hlinks, hloop,
    serve_fails_on_cycle _ _ _ havailable (.hashField "h" "f") hfirst hlinks (by decide) hloop⟩

/-- The alarm is never false: it names the limit, and there are references
nested in each other down to the limit, of which the one it names is the last.
So where no such nesting is longer than the limit the alarm is not raised. -/
theorem serve_cycle_has_nesting (havailable : m.unavailable = false) (request : Request) :
    (∀ reference depth,
      (((engine settings order).serve scope request).outcome m).1 =
          .error (.substitutionCycle reference depth) →
        depth = settings.maxSubstitutionDepth ∧ ∃ chain : Nat → Mention,
          (∃ text ∈ (m.view settings scope order).texts request, (chain 0).OccursIn text) ∧
          (∀ i < depth, (m.view settings scope order).Nested (chain i) (chain (i + 1))) ∧
          reference = (chain depth).text) ∧
    ((∀ (chain : Nat → Mention) (length : Nat),
        (∃ text ∈ (m.view settings scope order).texts request, (chain 0).OccursIn text) →
        (∀ i, i + 1 < length → (m.view settings scope order).Nested (chain i) (chain (i + 1))) →
          length ≤ settings.maxSubstitutionDepth) →
      ∀ reference depth, (((engine settings order).serve scope request).outcome m).1 ≠
        .error (.substitutionCycle reference depth)) := by
  have hnesting : ∀ reference depth,
      (((engine settings order).serve scope request).outcome m).1 =
          .error (.substitutionCycle reference depth) →
        depth = settings.maxSubstitutionDepth ∧ ∃ chain : Nat → Mention,
          (∃ text ∈ (m.view settings scope order).texts request, (chain 0).OccursIn text) ∧
          (∀ i < depth, (m.view settings scope order).Nested (chain i) (chain (i + 1))) ∧
          reference = (chain depth).text := by
    intro reference depth h
    rw [serve_result settings scope order havailable] at h
    rcases View.reply_error_texts h with ⟨text, htext, hexpanded⟩ | hmissing
    · obtain ⟨rfl, chain, hfirst, hlinks, hlast⟩ :=
        View.expansionAt_cycle (Nat.zero_le _) hexpanded
      exact ⟨rfl, chain, ⟨text, htext, hfirst⟩, hlinks, hlast⟩
    · cases hmissing
  refine ⟨hnesting, ?_⟩
  intro hbounded reference depth h
  obtain ⟨rfl, chain, hfirst, hlinks, _⟩ := hnesting reference depth h
  have hlength := hbounded chain (settings.maxSubstitutionDepth + 1) hfirst
    fun i hi => hlinks i (by omega)
  omega

/-- The ring, with room for four levels: the alarm names the reference at which
the fifth level would start. -/
theorem serve_cycle_has_nesting_ring :
    ring.unavailable = false ∧
      (((engine { maxSubstitutionDepth := 4 } .byName).serve .empty
        (.text "$\x7ba\x7d")).outcome ring).1 =
          .error (.substitutionCycle "$\x7bh/f\x7d" 4) ∧
      ∃ chain : Nat → Mention,
        (∃ text ∈ (ring.view { maxSubstitutionDepth := 4 } .empty .byName).texts
          (.text "$\x7ba\x7d"), (chain 0).OccursIn text) ∧
        (∀ i < 4, (ring.view { maxSubstitutionDepth := 4 } .empty .byName).Nested
          (chain i) (chain (i + 1))) ∧
        "$\x7bh/f\x7d" = (chain 4).text := by
  have havailable : ring.unavailable = false := rfl
  have halarm : (((engine { maxSubstitutionDepth := 4 } .byName).serve .empty
      (.text "$\x7ba\x7d")).outcome ring).1 =
        .error (.substitutionCycle "$\x7bh/f\x7d" 4) := by decide +kernel
  refine ⟨havailable, halarm, ?_⟩
  exact ((serve_cycle_has_nesting _ _ _ havailable (.text "$\x7ba\x7d")).1 _ _ halarm).2

end MemoryStore

end LayeredConfig
