/-
What the expansion of a value costs.  Each of its references that means
something is resolved once, in order of first occurrence.  To repeat one of
them, to add references that mean nothing, or to write other text around them
makes no difference to the store.
-/
import LayeredConfig.Proofs.Nesting
import Mathlib.Data.List.Induction

namespace LayeredConfig

open LayeredConfig.Action

section Rows

variable {α : Type} [DecidableEq α]

theorem eraseDups_concat (row : List α) (last : α) :
    (row ++ [last]).eraseDups =
      if last ∈ row then row.eraseDups else row.eraseDups ++ [last] := by
  rw [List.eraseDups_append, List.cons_removeAll]
  by_cases hlast : last ∈ row
  · simp [hlast]
  · simp [hlast, List.eraseDups_cons]

/-- What is there once is not left out. -/
theorem eraseDups_eraseDups (row : List α) : row.eraseDups.eraseDups = row.eraseDups := by
  induction row using List.reverseRecOn with
  | nil => rfl
  | append_singleton row last ih =>
      rw [eraseDups_concat]
      by_cases hlast : last ∈ row
      · rw [if_pos hlast, ih]
      · have hnew : last ∉ row.eraseDups := by
          rwa [List.mem_eraseDups]
        rw [if_neg hlast, eraseDups_concat, if_neg hnew, ih]

theorem filter_eraseDups (keep : α → Bool) (row : List α) :
    row.eraseDups.filter keep = (row.filter keep).eraseDups := by
  induction row using List.reverseRecOn with
  | nil => rfl
  | append_singleton row last ih =>
      by_cases hkeep : keep last = true
      · have hfilter : (row ++ [last]).filter keep = row.filter keep ++ [last] := by
          simp [hkeep]
        rw [hfilter, eraseDups_concat, eraseDups_concat]
        by_cases hlast : last ∈ row
        · simp [hlast, hkeep, ih]
        · simp [hlast, hkeep, ih]
      · have hfilter : (row ++ [last]).filter keep = row.filter keep := by
          simp [hkeep]
        rw [hfilter, eraseDups_concat]
        by_cases hlast : last ∈ row
        · simp [hlast, ih]
        · simp [hlast, hkeep, ih]

/-- What is repeated is left out, wherever it stands. -/
theorem eraseDups_repeated {before : List α} {item : α} (h : item ∈ before) (after : List α) :
    (before ++ item :: after).eraseDups = (before ++ after).eraseDups := by
  rw [List.eraseDups_append, List.eraseDups_append, List.cons_removeAll]
  simp [h]

end Rows

namespace Fragment

/-- Does a text mean something between the braces of a reference? -/
def isMeant (inner : String) : Bool :=
  (Reference.parse? inner).isSome

/-- Of the texts between braces those that mean something, each once, in order of
first occurrence. -/
def meant (inners : List String) : List String :=
  (inners.filter isMeant).eraseDups

/-- The text of a reference as a value of its own. -/
def written (inner : String) : String :=
  String.ofList (reference inner.toList).chars

/-- One row of texts between braces is the other one, with some more put in that
are repeated or mean nothing. -/
inductive Padded (inners : List String) : List String → Prop
  | refl : Padded inners inners
  | spare {before after : List String} {inner : String} (h : Padded inners (before ++ after))
      (hspare : inner ∈ before ∨ Reference.parse? inner = none) :
      Padded inners (before ++ inner :: after)

theorem Padded.meant_eq {inners padded : List String} (h : Padded inners padded) :
    meant padded = meant inners := by
  induction h with
  | refl => rfl
  | @spare before after inner h hspare ih =>
      rw [← ih, meant, meant, List.filter_append, List.filter_append]
      rcases hspare with hrepeated | hnothing
      · by_cases hmeant : isMeant inner = true
        · rw [List.filter_cons_of_pos hmeant]
          exact eraseDups_repeated (List.mem_filter.2 ⟨hrepeated, hmeant⟩) _
        · rw [List.filter_cons_of_neg hmeant]
      · have hmeant : ¬ isMeant inner = true := by simp [isMeant, hnothing]
        rw [List.filter_cons_of_neg hmeant]

/-- A row of texts with the references that they are. -/
def withReferences (inners : List String) : List (String × Reference) :=
  inners.filterMap fun inner => (Reference.parse? inner).map (inner, ·)

theorem withReferences_cons_mention (mention : Mention) (rest : List String) :
    withReferences (String.ofList mention.inner :: rest) =
      (String.ofList mention.inner, mention.reference) :: withReferences rest := by
  simp [withReferences, mention.parsed]

theorem written_mention (mention : Mention) :
    written (String.ofList mention.inner) = mention.text := by
  rw [written, String.toList_ofList, Mention.text]

theorem withReferences_meant (inners : List String) :
    withReferences (meant inners) = withReferences inners.eraseDups := by
  rw [meant, ← filter_eraseDups, withReferences, List.filterMap_filter, withReferences]
  apply List.filterMap_congr
  intro inner _
  cases hread : Reference.parse? inner <;> simp [isMeant, hread]

end Fragment

namespace Layout

open Fragment

/-- The texts between the braces of a layout's references. -/
def inners (layout : Layout) : List String :=
  layout.rest.map fun piece => String.ofList piece.1

/-- Nothing but the references of a layout that mean something, each once. -/
def condensed (layout : Layout) : String :=
  String.ofList ((meant layout.inners).flatMap fun inner => (written inner).toList)

variable {layout : Layout} {value : String}

theorem references_of_cuts (h : layout.Cuts value.toList) :
    references (split value) = withReferences (meant layout.inners) := by
  have hsplit : split value = layout.fragments := h.splitAfter_eq
  rw [hsplit, references, inners_fragments, withReferences_meant]
  rfl

/-- What is meant between the braces of a layout's references is that of mentions. -/
theorem exists_mention (h : layout.Cuts value.toList) {inner : String}
    (hmem : inner ∈ meant layout.inners) :
    ∃ mention : Mention, String.ofList mention.inner = inner := by
  obtain ⟨hinner, hmeant⟩ := List.mem_filter.1 (List.mem_eraseDups.1 hmem)
  obtain ⟨piece, hpiece, rfl⟩ := List.mem_map.1 hinner
  obtain ⟨reference, hread⟩ := Option.isSome_iff_exists.1 hmeant
  exact ⟨⟨piece.1, reference, h.inside piece hpiece, hread⟩, rfl⟩

/-- What is left of a value has the same references as the value. -/
theorem references_condensed (h : layout.Cuts value.toList) :
    references (split layout.condensed) = references (split value) := by
  have hinside : ∀ inner ∈ (meant layout.inners).map String.toList, IsInside inner := by
    intro inner hinner
    obtain ⟨text, htext, rfl⟩ := List.mem_map.1 hinner
    obtain ⟨mention, rfl⟩ := exists_mention h htext
    rw [String.toList_ofList]
    exact mention.inside
  have hsplit : split layout.condensed =
      (meant layout.inners).map fun inner => .reference inner.toList := by
    have hcut := splitAfter_references hinside
    rw [List.flatMap_map, List.map_map] at hcut
    rw [split, condensed, String.toList_ofList]
    simp only [written, String.toList_ofList]
    exact hcut
  have hinner : (inner? ∘ fun inner : String => reference inner.toList) = some := by
    funext inner
    simp [inner?]
  have hinners : Fragment.inners (split layout.condensed) = meant layout.inners := by
    rw [hsplit, Fragment.inners, List.filterMap_map, hinner, List.filterMap_some, meant,
      eraseDups_eraseDups]
  rw [references_of_cuts h, references, hinners]
  rfl

end Layout

namespace Action

variable {σ α β γ δ : Type}

/-- From every state two actions go to the same state, and one fails just if the
other does, in the same way; what they give does not matter. -/
def SameCourse (action : Action σ α) (other : Action σ β) : Prop :=
  ∀ state, (action.outcome state).2 = (other.outcome state).2 ∧
    ∀ failure, (action.outcome state).1 = .error failure ↔
      (other.outcome state).1 = .error failure

namespace SameCourse

theorem refl (action : Action σ α) : SameCourse action action :=
  fun _ => ⟨rfl, fun _ => Iff.rfl⟩

protected theorem pure (value : α) (other : β) :
    SameCourse (pure value : Action σ α) (pure other : Action σ β) :=
  fun _ => ⟨rfl, fun _ => ⟨nofun, nofun⟩⟩

/-- A failure stands for everything that would come behind it. -/
protected theorem throw {failure : Failure} (next : β → Action σ γ) :
    SameCourse (throw failure : Action σ α) (throw failure >>= next) := by
  refine fun state => ⟨rfl, fun other => ?_⟩
  change Except.error failure = Except.error other ↔ Except.error failure = Except.error other
  simp only [Except.error.injEq]

theorem symm {action : Action σ α} {other : Action σ β} (h : SameCourse action other) :
    SameCourse other action :=
  fun state => ⟨(h state).1.symm, fun failure => ((h state).2 failure).symm⟩

theorem trans {action : Action σ α} {between : Action σ β} {other : Action σ γ}
    (h : SameCourse action between) (hrest : SameCourse between other) :
    SameCourse action other :=
  fun state => ⟨(h state).1.trans (hrest state).1,
    fun failure => ((h state).2 failure).trans ((hrest state).2 failure)⟩

theorem bind {action : Action σ α} {other : Action σ β} {next : α → Action σ γ}
    {otherNext : β → Action σ δ} (h : SameCourse action other)
    (hnext : ∀ value otherValue, SameCourse (next value) (otherNext otherValue)) :
    SameCourse (action >>= next) (other >>= otherNext) := by
  intro state
  have hfirst := h state
  rw [outcome_bind, outcome_bind]
  generalize action.outcome state = out at hfirst ⊢
  generalize other.outcome state = otherOut at hfirst ⊢
  obtain ⟨result, left⟩ := out
  obtain ⟨otherResult, otherLeft⟩ := otherOut
  obtain ⟨rfl, herror⟩ := hfirst
  rcases result with failure | value
  · obtain rfl : otherResult = .error failure := (herror failure).1 rfl
    refine ⟨rfl, fun _ => ?_⟩
    simp only [Except.error.injEq]
  · rcases otherResult with failure | otherValue
    · exact absurd ((herror failure).2 rfl) nofun
    · exact hnext value otherValue left

/-- What is only made up from a result does not matter either. -/
theorem bind_pure (action : Action σ α) (make : α → β) :
    SameCourse (do let value ← action; return make value) action := by
  intro state
  rw [outcome_bind_pure]
  exact ⟨rfl, fun _ => bind_pure_eq_error_iff⟩

end SameCourse

end Action

namespace Engine

variable {σ : Type} (e : Engine σ) (scope : Scope)

/-- At the limit the first reference stops an expansion, whatever else is there. -/
theorem expandAt_of_limit {depth : Nat} (hlimit : e.settings.maxSubstitutionDepth ≤ depth)
    {value inner : String} {reference : Reference} {others : List (String × Reference)}
    (h : Fragment.references (Fragment.split value) = (inner, reference) :: others) :
    e.expandAt scope depth value =
      throw (.substitutionCycle (Fragment.written inner) depth) := by
  rw [expandAt, h]
  simp only [dif_pos hlimit]
  rfl

/-- Below the limit an expansion resolves the references of the value. -/
theorem expandAt_sameCourse {depth : Nat} (hlimit : depth < e.settings.maxSubstitutionDepth)
    (value : String) :
    SameCourse (e.expandAt scope depth value)
      (e.resolveAll (e.expandAt scope (depth + 1)) scope
        (Fragment.references (Fragment.split value))) := by
  rw [expandAt]
  rcases Fragment.references (Fragment.split value) with _ | ⟨⟨inner, reference⟩, others⟩
  · exact SameCourse.pure _ _
  · simp only [dif_neg (Nat.not_le.2 hlimit)]
    exact SameCourse.bind_pure _ _

/-- Of a value that is expanded only its references matter to the store. -/
theorem sameCourse_of_references {value other : String} (depth : Nat)
    (h : Fragment.references (Fragment.split value) =
      Fragment.references (Fragment.split other)) :
    SameCourse (e.expandAt scope depth value) (e.expandAt scope depth other) := by
  by_cases hlimit : depth < e.settings.maxSubstitutionDepth
  · have hother := (e.expandAt_sameCourse scope hlimit other).symm
    rw [← h] at hother
    exact (e.expandAt_sameCourse scope hlimit value).trans hother
  · cases hreferences : Fragment.references (Fragment.split value) with
    | nil =>
        rw [expandAt, expandAt, ← h, hreferences]
        exact SameCourse.pure _ _
    | cons first others =>
        rw [e.expandAt_of_limit scope (Nat.not_lt.1 hlimit) hreferences,
          e.expandAt_of_limit scope (Nat.not_lt.1 hlimit) (h ▸ hreferences)]
        exact SameCourse.refl _

/-- To resolve a row of references is to expand them by themselves, one after
another. -/
theorem resolveAll_sameCourse (hlimit : 0 < e.settings.maxSubstitutionDepth) {row : List String}
    (hrow : ∀ inner ∈ row, ∃ mention : Mention, String.ofList mention.inner = inner) :
    SameCourse (e.resolveAll (e.expandAt scope 1) scope (Fragment.withReferences row))
      (row.mapM fun inner => e.expand scope (Fragment.written inner)) := by
  induction row with
  | nil => exact SameCourse.pure _ _
  | cons inner rest ih =>
      obtain ⟨⟨mention, rfl⟩, hrest⟩ := List.forall_mem_cons.1 hrow
      rw [Fragment.withReferences_cons_mention, resolveAll, List.mapM_cons,
        Fragment.written_mention, expand, e.expandAt_text scope hlimit]
      apply (SameCourse.refl _).bind
      intro _ _
      exact (ih hrest).bind fun _ _ => SameCourse.pure _ _

theorem expand_sameCourse_mapM {layout : Layout} {value : String}
    (h : layout.Cuts value.toList) :
    SameCourse (e.expand scope value)
      ((Fragment.meant layout.inners).mapM fun inner =>
        e.expand scope (Fragment.written inner)) := by
  have hreferences := Layout.references_of_cuts h
  have hrow := fun inner (hinner : inner ∈ _) => Layout.exists_mention h hinner
  generalize Fragment.meant layout.inners = row at hreferences hrow ⊢
  by_cases hlimit : 0 < e.settings.maxSubstitutionDepth
  · have hall := e.resolveAll_sameCourse scope hlimit hrow
    rw [← hreferences] at hall
    exact (e.expandAt_sameCourse scope hlimit value).trans hall
  · have hstop : e.settings.maxSubstitutionDepth ≤ 0 := Nat.not_lt.1 hlimit
    rcases row with _ | ⟨inner, rest⟩
    · rw [expand, expandAt, hreferences]
      exact SameCourse.pure _ _
    · obtain ⟨⟨mention, rfl⟩, _⟩ := List.forall_mem_cons.1 hrow
      rw [Fragment.withReferences_cons_mention] at hreferences
      rw [List.mapM_cons, expand, expand, e.expandAt_of_limit scope hstop hreferences,
        Fragment.written_mention, e.expandAt_of_limit scope hstop mention.references_text,
        Fragment.written_mention]
      exact SameCourse.throw _

variable (value : String)

/-- Each distinct reference costs one resolution.  An expansion takes the course
of the distinct references of the value that mean something, expanded by
themselves in order of first occurrence, or as one value without anything
around them.  So it makes no difference to the store to repeat a reference
further on, to put in references that mean nothing or to write other text around
them. -/
theorem expand_costs_meant :
    (∃! layout : Layout, layout.Cuts value.toList) ∧
    ∀ layout : Layout, layout.Cuts value.toList →
      SameCourse (e.expand scope value) (e.expand scope layout.condensed) ∧
      SameCourse (e.expand scope value)
        ((Fragment.meant layout.inners).mapM fun inner =>
          e.expand scope (Fragment.written inner)) ∧
      ∀ (padded : String) (other : Layout), other.Cuts padded.toList →
        Fragment.Padded layout.inners other.inners →
          SameCourse (e.expand scope padded) (e.expand scope value) := by
  refine ⟨Layout.existsUnique_cuts _, fun layout h => ⟨?_, e.expand_sameCourse_mapM scope h, ?_⟩⟩
  · exact e.sameCourse_of_references scope 0 (Layout.references_condensed h).symm
  · intro padded other hother hpadded
    apply e.sameCourse_of_references scope 0
    rw [Layout.references_of_cuts hother, Layout.references_of_cuts h, hpadded.meant_eq]

end Engine

namespace MemoryStore

/-- A host that is referred to again, with text and a reference to nothing. -/
theorem expand_costs_meant_hosts :
    let layout : Layout := ⟨[], [("host".toList, [])]⟩
    let other : Layout :=
      ⟨['x'], [("host".toList, [':']), ("/x".toList, []), ("host".toList, [])]⟩
    layout.Cuts "$\x7bhost\x7d".toList ∧
      other.Cuts "x$\x7bhost\x7d:$\x7b/x\x7d$\x7bhost\x7d".toList ∧
      Fragment.Padded layout.inners other.inners ∧
      (((engine {} .byName).expand .empty
        "x$\x7bhost\x7d:$\x7b/x\x7d$\x7bhost\x7d").outcome hosts).2.fetches =
          NameMap.ofList [("cfg:default:host", 1), ("cfg:default:n", 1)] := by
  intro layout other
  have hcuts : layout.Cuts "$\x7bhost\x7d".toList := by decide +kernel
  have hother : other.Cuts "x$\x7bhost\x7d:$\x7b/x\x7d$\x7bhost\x7d".toList := by decide +kernel
  have hpadded : Fragment.Padded layout.inners other.inners := by
    have hinners : layout.inners = ["host"] := by decide +kernel
    have hothers : other.inners = ["host", "/x", "host"] := by decide +kernel
    have hagain : Fragment.Padded ["host"] (["host"] ++ ["host"]) :=
      Fragment.Padded.spare Fragment.Padded.refl (Or.inl (by decide))
    rw [hinners, hothers]
    exact Fragment.Padded.spare hagain (Or.inr (by decide +kernel))
  have hcourse := ((Engine.expand_costs_meant (engine {} .byName) .empty _).2 layout hcuts).2.2
    _ other hother hpadded hosts
  refine ⟨hcuts, hother, hpadded, ?_⟩
  rw [hcourse.1]
  decide +kernel

end MemoryStore

end LayeredConfig
