/-
How the search path depends on the scope.  A scope that defines more variables
gives the templates that are resolved already the same paths as before, so it
only adds layers, and none that are there change their order.
-/
import LayeredConfig.Proofs.HeaderScope
import LayeredConfig.Proofs.TemplateReading

namespace LayeredConfig

namespace Scope

/-- Every variable of a scope has the same value in one that extends it. -/
def Extends (wider scope : Scope) : Prop :=
  ∀ name value, scope.get? name = some value → wider.get? name = some value

theorem Extends.contains {wider scope : Scope} (h : wider.Extends scope) {name : String}
    (hdefined : scope.contains name = true) : wider.contains name = true := by
  obtain ⟨value, hvalue⟩ := Option.isSome_iff_exists.1 hdefined
  exact Option.isSome_iff_exists.2 ⟨value, h name value hvalue⟩

/-- More headers behind those of a request extend its scope. -/
theorem extends_ofHeaders_append (marker : String) (headers more : List (String × String)) :
    (ofHeaders marker (headers ++ more)).Extends (ofHeaders marker headers) := by
  intro name value hvalue
  rw [get?_ofHeaders_append, hvalue]
  rfl

end Scope

namespace PathTemplate

variable {scope wider : Scope}

theorem Segment.shown_extends (h : wider.Extends scope) {segment : Segment}
    (hdefined : ∀ name, .variable name = segment → scope.contains (String.ofList name) = true) :
    segment.shown wider = segment.shown scope := by
  rcases segment with text | name
  · rfl
  · obtain ⟨value, hvalue⟩ := Option.isSome_iff_exists.1 (hdefined name rfl)
    change scope.get? (String.ofList name) = some value at hvalue
    rw [shown, shown, h _ value hvalue, hvalue]

/-- A template that has a path keeps it. -/
theorem resolve_extends (h : wider.Extends scope) {template path : String}
    (hpath : resolve template scope = some path) : resolve template wider = some path := by
  obtain ⟨hdefined, htext⟩ := resolve_eq_some_iff.1 hpath
  refine resolve_eq_some_iff.2 ⟨fun name hname => h.contains (hdefined name hname), ?_⟩
  have hshown : ∀ segment ∈ segments template, segment.shown wider = segment.shown scope :=
    fun segment hsegment => Segment.shown_extends h fun name hname =>
      hdefined name (hname ▸ hsegment)
  rw [htext, List.flatMap_def, List.flatMap_def, List.map_congr_left hshown]

theorem filterMap_resolve_extends (h : wider.Extends scope) (templates : List String) :
    (templates.filterMap fun template => resolve template scope).Sublist
      (templates.filterMap fun template => resolve template wider) := by
  induction templates with
  | nil => exact List.Sublist.refl _
  | cons template rest ih =>
      rw [List.filterMap_cons, List.filterMap_cons]
      rcases hpath : resolve template scope with _ | path
      · rcases resolve template wider with _ | path
        · exact ih
        · exact ih.cons path
      · rw [resolve_extends h hpath]
        exact ih.cons_cons path

/-- A scope that extends another one resolves at least the same templates, to the
same paths, and so has the search path of the other among its own, in the same
order.  Of two rows of templates the paths of the first come behind those of the
second. -/
theorem resolvePaths_grows :
    (∀ (templates : List String) (scope wider : Scope), wider.Extends scope →
      (∀ template ∈ templates, ∀ path,
        resolve template scope = some path → resolve template wider = some path) ∧
      (resolvePaths templates scope).Sublist (resolvePaths templates wider)) ∧
    ∀ (higher lower : List String) (scope : Scope),
      resolvePaths (higher ++ lower) scope =
        resolvePaths lower scope ++ resolvePaths higher scope := by
  constructor
  · intro templates scope wider h
    refine ⟨fun template _ path hpath => resolve_extends h hpath, ?_⟩
    exact (filterMap_resolve_extends h templates).reverse
  · intro higher lower scope
    rw [resolvePaths, List.filterMap_append, List.reverse_append]
    rfl

/-- A request that also says which pod it comes from has one more layer, between
the two that it had. -/
theorem resolvePaths_grows_pod :
    let site := ("X-Cfg-Site", "East")
    let pod := ("X-Cfg-Pod", "P1")
    let templates := ["host/%\x7bhost\x7d", "site/%\x7bsite\x7d", "pod/%\x7bpod\x7d", "default"]
    (Scope.ofHeaders "x-cfg-" [site, pod]).Extends (Scope.ofHeaders "x-cfg-" [site]) ∧
      ["default", "site/east"].Sublist
        (resolvePaths templates (Scope.ofHeaders "x-cfg-" [site, pod])) ∧
      resolvePaths templates (Scope.ofHeaders "x-cfg-" [site, pod]) =
        ["default", "pod/p1", "site/east"] := by
  intro site pod templates
  have hextends := Scope.extends_ofHeaders_append "x-cfg-" [site] [pod]
  have hnarrow : resolvePaths templates (Scope.ofHeaders "x-cfg-" [site]) =
      ["default", "site/east"] := by decide +kernel
  have hgrows := (resolvePaths_grows.1 templates _ _ hextends).2
  rw [hnarrow] at hgrows
  exact ⟨hextends, hgrows, by decide +kernel⟩

end PathTemplate

end LayeredConfig
