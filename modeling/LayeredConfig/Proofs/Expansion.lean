/-
The expansion of a value.  All its references are replaced at once: the result
is the value's layout with every reference filled in, or the failure of the
first reference that cannot be resolved.
-/
import LayeredConfig.Proofs.Layout
import LayeredConfig.Proofs.MemoryView
import Mathlib.Data.List.Basic

namespace LayeredConfig

open LayeredConfig.Action

namespace View

/-- The values of references, with the text of each. -/
def replacements (v : View) (value : String → Except Failure String)
    (references : List (String × Reference)) : Except Failure (List (String × String)) :=
  references.mapM fun reference => do
    let text ← v.resolved value reference.2
    return (reference.1, text)

/-- The expansion of a value that stands at a depth of nesting. -/
def expansionAt (v : View) (depth : Nat) (value : String) : Except Failure String :=
  match Fragment.references (Fragment.split value) with
  | [] => return value
  | (inner, reference) :: others =>
      if _h : v.settings.maxSubstitutionDepth ≤ depth then
        throw (.substitutionCycle (String.ofList (Fragment.reference inner.toList).chars) depth)
      else do
        let replacements ← v.replacements (v.expansionAt (depth + 1)) ((inner, reference) :: others)
        return String.ofList ((Fragment.split value).flatMap (Fragment.fill replacements))
termination_by v.settings.maxSubstitutionDepth - depth

end View

namespace KeyStore.Shows

variable {σ : Type} {store : KeyStore σ} {states : σ → Prop} {v : View}

theorem resolveAll (h : store.Shows states v) {expand : String → Action σ String}
    {value : String → Except Failure String}
    (hexpand : ∀ text, Gives states (expand text) (value text))
    (references : List (String × Reference)) :
    Gives states (Engine.resolveAll ⟨v.settings, store⟩ expand v.scope references)
      (v.replacements value references) := by
  induction references with
  | nil => exact Gives.pure []
  | cons head rest ih =>
      rw [View.replacements, List.mapM_cons]
      simp only [bind_assoc, pure_bind]
      apply (h.resolveBy hexpand head.2).bind
      intro text _
      exact ih.bind fun others _ => Gives.pure _

/-- A store that shows a view expands values as the view does. -/
theorem expandAt (h : store.Shows states v) (depth : Nat) (value : String) :
    Gives states (Engine.expandAt ⟨v.settings, store⟩ v.scope depth value)
      (v.expansionAt depth value) := by
  fun_induction View.expansionAt v depth value with
  | case1 depth value hnone =>
      rw [Engine.expandAt, hnone]
      exact Gives.pure value
  | case2 depth value inner reference others hsome hlimit =>
      rw [Engine.expandAt, hsome]
      simp only [dif_pos hlimit]
      exact Gives.throw _
  | case3 depth value inner reference others hsome hlimit ih =>
      rw [Engine.expandAt, hsome]
      simp only [dif_neg hlimit]
      exact (h.resolveAll ih _).bind fun replacements _ => Gives.pure _

end KeyStore.Shows

namespace View

variable {v : View} {depth : Nat}

theorem expansionAt_of_lt (h : depth < v.settings.maxSubstitutionDepth) (value : String) :
    v.expansionAt depth value = do
      let replacements ← v.replacements (v.expansionAt (depth + 1))
        (Fragment.references (Fragment.split value))
      return String.ofList ((Fragment.split value).flatMap (Fragment.fill replacements)) := by
  rw [expansionAt]
  cases hreferences : Fragment.references (Fragment.split value) with
  | nil =>
      have hfill : (Fragment.fill [] : Fragment → List Char) = Fragment.chars := by
        funext fragment
        cases fragment <;> rfl
      simp only [replacements, List.mapM_nil, pure_bind, hfill, Fragment.split_chars]
      rw [String.ofList_toList]
  | cons reference others => simp only [dif_neg (Nat.not_le.2 h)]

/-- What is put in for the text between the braces of a reference. -/
def replacement (v : View) (value : String → Except Failure String) (inner : List Char) :
    Except Failure String :=
  match Reference.parse? (String.ofList inner) with
  | some reference => v.resolved value reference
  | none => return String.ofList (Fragment.reference inner).chars

end View

namespace Layout

variable {v : View} {value : String → Except Failure String}

/-- The text of a layout with something put in for each reference. -/
def fill (layout : Layout) (put : List Char → String) : List Char :=
  layout.first ++ layout.rest.flatMap fun piece => (put piece.1).toList ++ piece.2

theorem inners_fragments (layout : Layout) :
    Fragment.inners layout.fragments =
      (layout.rest.map fun piece => String.ofList piece.1).eraseDups := by
  have hflush : ∀ text : List Char,
      (Text.flush Fragment.literal text.reverse).filterMap Fragment.inner? = [] := by
    intro text
    rw [List.filterMap_eq_nil_iff]
    intro fragment hfragment
    rw [Text.eq_of_mem_flush hfragment, Fragment.inner?]
  rw [Fragment.inners, fragments, List.filterMap_append, hflush, List.nil_append]
  congr 1
  induction layout.rest with
  | nil => rfl
  | cons piece rest ih =>
      rw [List.flatMap_cons, List.cons_append, List.filterMap_cons, List.filterMap_append, hflush]
      simpa [Fragment.inner?] using ih

theorem mem_references_iff {layout : Layout} {inner : String} {reference : Reference} :
    (inner, reference) ∈ Fragment.references layout.fragments ↔
      (∃ piece ∈ layout.rest, String.ofList piece.1 = inner) ∧
        Reference.parse? inner = some reference := by
  simp only [Fragment.references, inners_fragments, List.mem_filterMap, List.mem_eraseDups,
    List.mem_map, Option.map_eq_some_iff]
  constructor
  · rintro ⟨found, hpiece, read, hread, h⟩
    cases h
    exact ⟨hpiece, hread⟩
  · rintro ⟨hpiece, hread⟩
    exact ⟨inner, hpiece, reference, hread, rfl⟩

/-- Up to a reference that has not been seen before, the references of a layout
are those of the pieces before it. -/
theorem references_split {layout : Layout} {before after : List (List Char × List Char)}
    {piece : List Char × List Char} {reference : Reference}
    (hrest : layout.rest = before ++ piece :: after)
    (hread : Reference.parse? (String.ofList piece.1) = some reference)
    (hnew : ∀ earlier ∈ before, earlier.1 ≠ piece.1) :
    ∃ first later, Fragment.references layout.fragments =
        first ++ (String.ofList piece.1, reference) :: later ∧
      ∀ entry ∈ first, Reference.parse? entry.1 = some entry.2 ∧
        ∃ earlier ∈ before, String.ofList earlier.1 = entry.1 := by
  let key := fun piece : List Char × List Char => String.ofList piece.1
  have hfresh : key piece ∉ before.map key := by
    intro hmem
    obtain ⟨earlier, hearlier, heq⟩ := List.mem_map.1 hmem
    exact hnew earlier hearlier (String.ofList_injective heq)
  have hinners : ∃ others, Fragment.inners layout.fragments =
      (before.map key).eraseDups ++ key piece :: others := by
    rw [inners_fragments, hrest, List.map_append, List.map_cons, List.eraseDups_append,
      List.cons_removeAll, if_pos (by simpa using hfresh), List.eraseDups_cons]
    exact ⟨_, rfl⟩
  obtain ⟨others, hinners⟩ := hinners
  let meant := fun inner : String => (Reference.parse? inner).map (inner, ·)
  have hpiece : meant (key piece) = some (key piece, reference) := by simp [meant, key, hread]
  refine ⟨(before.map key).eraseDups.filterMap meant, others.filterMap meant, ?_, ?_⟩
  · change (Fragment.inners layout.fragments).filterMap meant = _
    rw [hinners, List.filterMap_append, List.filterMap_cons_some hpiece]
  · intro entry hentry
    obtain ⟨inner, hinner, hmap⟩ := List.mem_filterMap.1 hentry
    obtain ⟨found, hfound, rfl⟩ := Option.map_eq_some_iff.1 hmap
    obtain ⟨earlier, hearlier, heq⟩ := List.mem_map.1 (List.mem_eraseDups.1 hinner)
    exact ⟨hfound, earlier, hearlier, heq⟩

/-- A function of fragments that keeps plain text, over a whole layout. -/
theorem fragments_flatMap (layout : Layout) {put : Fragment → List Char}
    (hliteral : ∀ text, put (.literal text) = text) :
    layout.fragments.flatMap put =
      layout.first ++ layout.rest.flatMap fun piece => put (.reference piece.1) ++ piece.2 := by
  have hflush : ∀ text : List Char,
      (Text.flush Fragment.literal text.reverse).flatMap put = text := by
    intro text
    rw [Text.flatMap_flush (hliteral []), hliteral, List.reverse_reverse]
  rw [fragments, List.flatMap_append, hflush]
  congr 1
  induction layout.rest with
  | nil => rfl
  | cons piece rest ih =>
      rw [List.flatMap_cons, List.cons_append, List.flatMap_cons, List.flatMap_append, hflush,
        List.flatMap_cons, ih]
      simp

theorem lookup_map_key (references : List (String × Reference)) (put : String → String)
    (key : String) :
    (references.map fun reference => (reference.1, put reference.1)).lookup key =
      if key ∈ references.map Prod.fst then some (put key) else none := by
  induction references with
  | nil => rfl
  | cons head rest ih =>
      by_cases hkey : key = head.1
      · subst hkey
        simp
      · have hne : (key == head.1) = false := by simpa using hkey
        simp only [List.map_cons, List.lookup_cons, hne, ih, List.mem_cons, hkey, false_or]

/-- Filling from the table of replacements puts in what each reference stands
for; a reference that means nothing is not in the table and stays. -/
theorem fill_table {layout : Layout} {put : List Char → String}
    (hput : ∀ piece ∈ layout.rest, v.replacement value piece.1 = .ok (put piece.1)) :
    layout.fragments.flatMap (Fragment.fill ((Fragment.references layout.fragments).map
      fun reference => (reference.1, put reference.1.toList))) = layout.fill put := by
  rw [fragments_flatMap layout fun text => rfl, fill]
  congr 1
  refine List.flatMap_congr fun piece hpiece => ?_
  congr 1
  rw [Fragment.fill, lookup_map_key _ (fun key => put key.toList), String.toList_ofList]
  cases hread : Reference.parse? (String.ofList piece.1) with
  | some reference =>
      have hmem := mem_references_iff.2 ⟨⟨piece, hpiece, rfl⟩, hread⟩
      rw [if_pos (List.mem_map_of_mem hmem)]
  | none =>
      have hnot : String.ofList piece.1 ∉ (Fragment.references layout.fragments).map Prod.fst := by
        intro hmem
        obtain ⟨⟨_, reference⟩, hmem, rfl⟩ := List.mem_map.1 hmem
        rw [(mem_references_iff.1 hmem).2] at hread
        cases hread
      have hown := hput piece hpiece
      rw [View.replacement, hread] at hown
      rw [if_neg hnot, ← Except.ok.inj hown, String.toList_ofList]

end Layout

namespace View

variable {v : View} {depth : Nat} {value : String} {layout : Layout}

theorem expansionAt_of_all_ok (hdepth : depth < v.settings.maxSubstitutionDepth)
    (hcuts : layout.Cuts value.toList) {put : List Char → String}
    (hput : ∀ piece ∈ layout.rest,
      v.replacement (v.expansionAt (depth + 1)) piece.1 = .ok (put piece.1)) :
    v.expansionAt depth value = .ok (String.ofList (layout.fill put)) := by
  have hsplit : Fragment.split value = layout.fragments := hcuts.splitAfter_eq
  have htable : v.replacements (v.expansionAt (depth + 1)) (Fragment.references layout.fragments) =
      .ok ((Fragment.references layout.fragments).map
        fun reference => (reference.1, put reference.1.toList)) := by
    refine mapM_ok fun reference hreference => ?_
    obtain ⟨⟨piece, hpiece, hinner⟩, hread⟩ := Layout.mem_references_iff.1 hreference
    have hown := hput piece hpiece
    rw [replacement, hinner, hread] at hown
    simp only [hown, ← hinner, String.toList_ofList]
    rfl
  rw [expansionAt_of_lt hdepth, hsplit, htable, ← Layout.fill_table hput]
  rfl

theorem expansionAt_of_first_error (hdepth : depth < v.settings.maxSubstitutionDepth)
    (hcuts : layout.Cuts value.toList) {before after : List (List Char × List Char)}
    {piece : List Char × List Char} {failure : Failure}
    (hrest : layout.rest = before ++ piece :: after)
    (hbefore : ∀ earlier ∈ before,
      ∃ text, v.replacement (v.expansionAt (depth + 1)) earlier.1 = .ok text)
    (hpiece : v.replacement (v.expansionAt (depth + 1)) piece.1 = .error failure) :
    v.expansionAt depth value = .error failure := by
  have hsplit : Fragment.split value = layout.fragments := hcuts.splitAfter_eq
  have hnew : ∀ earlier ∈ before, earlier.1 ≠ piece.1 := by
    intro earlier hearlier heq
    obtain ⟨text, htext⟩ := hbefore earlier hearlier
    rw [heq, hpiece] at htext
    cases htext
  cases hread : Reference.parse? (String.ofList piece.1) with
  | none =>
      rw [replacement, hread] at hpiece
      cases hpiece
  | some reference =>
      obtain ⟨first, later, hreferences, hfirst⟩ := Layout.references_split hrest hread hnew
      have htable : v.replacements (v.expansionAt (depth + 1))
          (Fragment.references layout.fragments) = .error failure := by
        rw [replacements, hreferences]
        refine mapM_first_error (fun entry hentry => ?_) ?_
        · obtain ⟨hparse, earlier, hearlier, hinner⟩ := hfirst entry hentry
          obtain ⟨text, htext⟩ := hbefore earlier hearlier
          rw [replacement, hinner, hparse] at htext
          simp only [htext]
          exact ⟨_, rfl⟩
        · rw [replacement, hread] at hpiece
          simp only [hpiece]
          rfl
      rw [expansionAt_of_lt hdepth, hsplit, htable]
      rfl

/-- Either everything that is to be put in is there, or something fails first;
this settles the expansion. -/
theorem expansionAt_cases (hdepth : depth < v.settings.maxSubstitutionDepth)
    (hcuts : layout.Cuts value.toList) :
    (∃ put : List Char → String,
      (∀ piece ∈ layout.rest,
        v.replacement (v.expansionAt (depth + 1)) piece.1 = .ok (put piece.1)) ∧
      v.expansionAt depth value = .ok (String.ofList (layout.fill put))) ∨
    ∃ before piece after failure, layout.rest = before ++ piece :: after ∧
      (∀ earlier ∈ before,
        ∃ text, v.replacement (v.expansionAt (depth + 1)) earlier.1 = .ok text) ∧
      v.replacement (v.expansionAt (depth + 1)) piece.1 = .error failure ∧
      v.expansionAt depth value = .error failure := by
  let found := v.replacement (v.expansionAt (depth + 1))
  rcases forall_ok_or_first_error (fun piece => found piece.1) layout.rest with
    hall | ⟨before, piece, after, failure, hrest, hbefore, hpiece⟩
  · have hput : ∀ piece ∈ layout.rest,
        found piece.1 = .ok ((found piece.1).toOption.getD "") := by
      intro piece hpiece
      obtain ⟨text, htext⟩ := hall piece hpiece
      rw [htext]
      rfl
    exact Or.inl ⟨fun inner => (found inner).toOption.getD "", hput,
      expansionAt_of_all_ok hdepth hcuts hput⟩
  · exact Or.inr ⟨before, piece, after, failure, hrest, hbefore, hpiece,
      expansionAt_of_first_error hdepth hcuts hrest hbefore hpiece⟩

theorem expansionAt_ok_iff (hdepth : depth < v.settings.maxSubstitutionDepth)
    (hcuts : layout.Cuts value.toList) (result : String) :
    v.expansionAt depth value = .ok result ↔
      ∃ put : List Char → String,
        (∀ piece ∈ layout.rest,
          v.replacement (v.expansionAt (depth + 1)) piece.1 = .ok (put piece.1)) ∧
        result = String.ofList (layout.fill put) := by
  constructor
  · intro hresult
    rcases expansionAt_cases hdepth hcuts with
      ⟨put, hput, hok⟩ | ⟨_, _, _, _, _, _, _, herror⟩
    · rw [hresult] at hok
      exact ⟨put, hput, Except.ok.inj hok⟩
    · rw [hresult] at herror
      cases herror
  · rintro ⟨put, hput, rfl⟩
    exact expansionAt_of_all_ok hdepth hcuts hput

theorem expansionAt_error_iff (hdepth : depth < v.settings.maxSubstitutionDepth)
    (hcuts : layout.Cuts value.toList) (failure : Failure) :
    v.expansionAt depth value = .error failure ↔
      ∃ before piece after, layout.rest = before ++ piece :: after ∧
        (∀ earlier ∈ before,
          ∃ text, v.replacement (v.expansionAt (depth + 1)) earlier.1 = .ok text) ∧
        v.replacement (v.expansionAt (depth + 1)) piece.1 = .error failure := by
  constructor
  · intro hresult
    rcases expansionAt_cases hdepth hcuts with
      ⟨_, _, hok⟩ | ⟨before, piece, after, found, hrest, hbefore, hpiece, herror⟩
    · rw [hresult] at hok
      cases hok
    · rw [hresult] at herror
      obtain rfl : failure = found := Except.error.inj herror
      exact ⟨before, piece, after, hrest, hbefore, hpiece⟩
  · rintro ⟨before, piece, after, hrest, hbefore, hpiece⟩
    exact expansionAt_of_first_error hdepth hcuts hrest hbefore hpiece

/-- A scalar that is nowhere stored resolves to the empty text. -/
theorem resolved_scalar_missing {expand : String → Except Failure String} {key : String}
    (hnone : v.rawValues (.scalar key) = []) : v.resolved expand (.scalar key) = .ok "" := by
  have hstored : v.stored key StoredValue.string? = [] := List.map_eq_nil_iff.1 hnone
  simp only [resolved, reply, hstored]
  rfl

end View

/-- What is put in for a reference as it is written: its value at a depth of
nesting, or its own text if it means nothing. -/
def Engine.replacementAt {σ : Type} (e : Engine σ) (scope : Scope) (depth : Nat)
    (inner : List Char) : Action σ String :=
  match Reference.parse? (String.ofList inner) with
  | some reference => e.resolveAt scope depth reference
  | none => return String.ofList (Fragment.reference inner).chars

namespace MemoryStore

variable (settings : Settings) (scope : Scope) (order : FieldOrder) {m : MemoryStore}

theorem expandAt_result (havailable : m.unavailable = false) (depth : Nat) (value : String) :
    (((engine settings order).expandAt scope depth value).outcome m).1 =
      (m.view settings scope order).expansionAt depth value :=
  ((shows (m.view settings scope order)).expandAt depth value).result_eq ⟨rfl, havailable⟩

theorem resolveAt_result (havailable : m.unavailable = false) (depth : Nat)
    (reference : Reference) :
    (((engine settings order).resolveAt scope depth reference).outcome m).1 =
      (m.view settings scope order).resolved
        ((m.view settings scope order).expansionAt depth) reference := by
  have hshows := shows (m.view settings scope order)
  exact (hshows.resolveBy (hshows.expandAt depth) reference).result_eq ⟨rfl, havailable⟩

theorem serve_result (havailable : m.unavailable = false) (request : Request) :
    (((engine settings order).serve scope request).outcome m).1 =
      (m.view settings scope order).reply ((m.view settings scope order).expansionAt 0)
        request := by
  rw [Engine.serve_eq_serveBy]
  have hshows := shows (m.view settings scope order)
  exact (hshows.serveBy (hshows.expandAt 0) request).result_eq ⟨rfl, havailable⟩

theorem replacementAt_result (havailable : m.unavailable = false) (depth : Nat)
    (inner : List Char) :
    (((engine settings order).replacementAt scope depth inner).outcome m).1 =
      (m.view settings scope order).replacement
        ((m.view settings scope order).expansionAt depth) inner := by
  unfold Engine.replacementAt View.replacement
  cases Reference.parse? (String.ofList inner) with
  | some reference => exact resolveAt_result settings scope order havailable depth reference
  | none => rfl

/-- Expansion is simultaneous substitution.  The references of a value lie
apart and fix its layout.  The value can be expanded just if something can be
put in for each of them, which is then done once and for all; otherwise the
first of them that fails decides.  A scalar that is nowhere stored is empty. -/
theorem expandAt_fills_layout (havailable : m.unavailable = false) {depth : Nat}
    (hdepth : depth < settings.maxSubstitutionDepth) (value : String) :
    (∀ place place' inner other, Fragment.StandsAt value.toList place inner →
      Fragment.StandsAt value.toList place' other →
        (place = place' ∧ inner = other) ∨
          place + (Fragment.reference inner).chars.length ≤ place' ∨
          place' + (Fragment.reference other).chars.length ≤ place) ∧
    (∃! layout : Layout, layout.Cuts value.toList) ∧
    (∀ layout : Layout, layout.Cuts value.toList →
      (∀ result,
        (((engine settings order).expandAt scope depth value).outcome m).1 = .ok result ↔
          ∃ put : List Char → String,
            (∀ piece ∈ layout.rest,
              (((engine settings order).replacementAt scope (depth + 1) piece.1).outcome m).1 =
                .ok (put piece.1)) ∧
            result = String.ofList (layout.fill put)) ∧
      ∀ failure,
        (((engine settings order).expandAt scope depth value).outcome m).1 = .error failure ↔
          ∃ before piece after, layout.rest = before ++ piece :: after ∧
            (∀ earlier ∈ before, ∃ text,
              (((engine settings order).replacementAt scope (depth + 1) earlier.1).outcome m).1 =
                .ok text) ∧
            (((engine settings order).replacementAt scope (depth + 1) piece.1).outcome m).1 =
              .error failure) ∧
    ∀ key, (m.view settings scope order).rawValues (.scalar key) = [] →
      (((engine settings order).resolveAt scope (depth + 1) (.scalar key)).outcome m).1 =
        .ok "" := by
  simp only [expandAt_result settings scope order havailable,
    replacementAt_result settings scope order havailable,
    resolveAt_result settings scope order havailable]
  refine ⟨fun _ _ _ _ h h' => Fragment.standsAt_disjoint h h', Layout.existsUnique_cuts _,
    fun layout hcuts => ?_, fun key hnone => View.resolved_scalar_missing hnone⟩
  exact ⟨View.expansionAt_ok_iff hdepth hcuts, View.expansionAt_error_iff hdepth hcuts⟩

/-- A host whose stored name refers to a number. -/
def hosts : MemoryStore where
  entries := NameMap.ofList
    [("cfg:default:host", .string "db$\x7bn\x7d"), ("cfg:default:n", .string "1")]

/-- A repeated reference, a missing scalar and a reference that means nothing. -/
theorem expandAt_fills_layout_hosts :
    hosts.unavailable = false ∧ 0 < ({} : Settings).maxSubstitutionDepth ∧
      (((engine {} .byName).expandAt .empty 0
        "$\x7bhost\x7d:$\x7bport\x7d,$\x7bhost\x7d $\x7b/x\x7d").outcome hosts).1 =
          .ok "db1:,db1 $\x7b/x\x7d" := by
  have havailable : hosts.unavailable = false := rfl
  have hdepth : 0 < ({} : Settings).maxSubstitutionDepth := by decide
  refine ⟨havailable, hdepth, ?_⟩
  let layout : Layout := ⟨[], [("host".toList, [':']), ("port".toList, [',']),
    ("host".toList, [' ']), ("/x".toList, [])]⟩
  let put : List Char → String := fun inner =>
    if inner = "host".toList then "db1"
    else if inner = "port".toList then "" else "$\x7b/x\x7d"
  have hcuts : layout.Cuts
      "$\x7bhost\x7d:$\x7bport\x7d,$\x7bhost\x7d $\x7b/x\x7d".toList := by decide +kernel
  have hfills := (expandAt_fills_layout {} .empty .byName havailable hdepth _).2.2.1 layout hcuts
  exact (hfills.1 _).2 ⟨put, by decide +kernel, by decide +kernel⟩

end MemoryStore

end LayeredConfig
