/-
What an answer depends on in a scope: the values of the variables that some
template names, and nothing else.  Scopes that agree on them are served in the
same way on every store, so a header for another variable changes no answer.
-/
import LayeredConfig.Proofs.HeaderScope
import LayeredConfig.Proofs.MemoryView
import LayeredConfig.Proofs.Parallel
import Mathlib.Data.List.Basic

namespace LayeredConfig

namespace PathTemplate

/-- The variable that a segment stands for. -/
def Segment.name? : Segment → Option String
  | .literal _ => none
  | .variable name => some (String.ofList name)

/-- The variables that the tokens of a template name. -/
def variableNames (template : String) : List String :=
  (segments template).filterMap Segment.name?

variable {scope other : Scope}

theorem mapM_fill_congr {segments : List Segment}
    (h : ∀ segment ∈ segments, segment.fill scope = segment.fill other) :
    segments.mapM (Segment.fill scope) = segments.mapM (Segment.fill other) := by
  induction segments with
  | nil => rfl
  | cons head rest ih =>
      rw [List.mapM_cons, List.mapM_cons, h head List.mem_cons_self,
        ih fun segment hsegment => h segment (List.mem_cons_of_mem head hsegment)]

/-- A path depends on the variables of its template only. -/
theorem resolve_congr {template : String}
    (h : ∀ name ∈ variableNames template, scope.get? name = other.get? name) :
    resolve template scope = resolve template other := by
  have hfill : ∀ segment ∈ segments template, segment.fill scope = segment.fill other := by
    intro segment hsegment
    rcases segment with text | name
    · rfl
    · have hname : String.ofList name ∈ variableNames template :=
        List.mem_filterMap.2 ⟨_, hsegment, rfl⟩
      rw [Segment.fill, Segment.fill, h _ hname]
  rw [resolve, resolve, mapM_fill_congr hfill]

theorem resolvePaths_congr {templates : List String}
    (h : ∀ template ∈ templates, ∀ name ∈ variableNames template,
      scope.get? name = other.get? name) :
    resolvePaths templates scope = resolvePaths templates other := by
  rw [resolvePaths, resolvePaths]
  congr 1
  apply List.filterMap_congr
  intro template htemplate
  exact resolve_congr (h template htemplate)

end PathTemplate

namespace Scope

/-- A header says nothing about the variables that it does not define. -/
theorem get?_ofHeaders_insert {marker name : String} (before : List (String × String))
    {header : String × String}
    (h : headerVariable? (Text.lowercase marker) header.1 ≠ some name)
    (after : List (String × String)) :
    (ofHeaders marker (before ++ header :: after)).get? name =
      (ofHeaders marker (before ++ after)).get? name := by
  rw [get?_ofHeaders_append, get?_ofHeaders_append, get?_ofHeaders marker (header :: after),
    List.find?_cons_of_neg (by simpa using h), ← get?_ofHeaders]

end Scope

namespace Engine

open LayeredConfig.Action

variable {σ : Type}

theorem alike_of_agree (e : Engine σ) {scope other : Scope}
    (h : ∀ template ∈ e.settings.keyPaths, ∀ name ∈ PathTemplate.variableNames template,
      scope.get? name = other.get? name) :
    e.Alike (fun _ action other => action = other) scope e other where
  keyPrefix := rfl
  paths := PathTemplate.resolvePaths_congr h
  holds _ _ := rfl
  getScalar _ := rfl
  getHash _ := rfl
  hasHashField _ _ := rfl
  getHashField _ _ := rfl
  getList _ := rfl

/-- Only the variables that templates name count.  Two scopes that agree on
them, by value or by leaving them undefined, give the same answers and leave the
same states on every store, for every request and for values at every depth of
nesting; and a header that defines none of them, wherever it stands among the
headers of a request, makes no difference to anything. -/
theorem serve_eq_of_agree (e : Engine σ) :
    (∀ scope other : Scope,
      (∀ template ∈ e.settings.keyPaths, ∀ name ∈ PathTemplate.variableNames template,
        scope.get? name = other.get? name) →
      (∀ request state,
        (e.serve scope request).outcome state = (e.serve other request).outcome state) ∧
      ∀ depth value state,
        (e.expandAt scope depth value).outcome state =
          (e.expandAt other depth value).outcome state) ∧
    ∀ (marker : String) (before after : List (String × String)) (header : String × String),
      (∀ name, Scope.headerVariable? (Text.lowercase marker) header.1 = some name →
        ∀ template ∈ e.settings.keyPaths, name ∉ PathTemplate.variableNames template) →
      ∀ request state,
        (e.serve (Scope.ofHeaders marker (before ++ header :: after)) request).outcome state =
          (e.serve (Scope.ofHeaders marker (before ++ after)) request).outcome state := by
  have hserve : ∀ scope other : Scope,
      (∀ template ∈ e.settings.keyPaths, ∀ name ∈ PathTemplate.variableNames template,
        scope.get? name = other.get? name) →
      ∀ request, e.serve scope request = e.serve other request := by
    intro scope other h request
    exact (e.alike_of_agree h).serve Congruence.eq rfl (fun _ _ => rfl) request
  constructor
  · intro scope other h
    constructor
    · intro request state
      rw [hserve scope other h request]
    · intro depth value state
      have hexpand := (e.alike_of_agree h).expandAt Congruence.eq rfl (fun _ _ => rfl) depth value
      rw [hexpand]
  · intro marker before after header hunused request state
    rw [hserve]
    intro template htemplate name hname
    apply Scope.get?_ofHeaders_insert
    intro hdefines
    exact hunused name hdefines template htemplate hname

/-- A message for one site and one for all. -/
def messages : MemoryStore where
  entries := NameMap.ofList
    [("cfg:default:motd", .string "hello"), ("cfg:site/east:motd", .string "hello east")]

/-- No template names a pod, so it does not matter that a request has one. -/
theorem serve_eq_of_agree_messages :
    let e := MemoryStore.engine { keyPaths := ["site/%\x7bsite\x7d", "default"] } .byName
    (∀ name, Scope.headerVariable? (Text.lowercase "x-cfg-") "X-Cfg-Pod" = some name →
        ∀ template ∈ e.settings.keyPaths, name ∉ PathTemplate.variableNames template) ∧
      (e.serve (Scope.ofHeaders "x-cfg-" [("X-Cfg-Site", "East"), ("X-Cfg-Pod", "3")])
          (.scalar "motd")).outcome messages =
        (e.serve (Scope.ofHeaders "x-cfg-" [("X-Cfg-Site", "East")])
          (.scalar "motd")).outcome messages ∧
      ((e.serve (Scope.ofHeaders "x-cfg-" [("X-Cfg-Site", "East")])
          (.scalar "motd")).outcome messages).1 = .ok ⟨"hello east", "cfg:site/east:motd"⟩ := by
  intro e
  have hunused : ∀ name, Scope.headerVariable? (Text.lowercase "x-cfg-") "X-Cfg-Pod" = some name →
      ∀ template ∈ e.settings.keyPaths, name ∉ PathTemplate.variableNames template := by
    intro name hname
    have hpod : Scope.headerVariable? (Text.lowercase "x-cfg-") "X-Cfg-Pod" = some "pod" := by
      decide +kernel
    obtain rfl : "pod" = name := Option.some.inj (hpod.symm.trans hname)
    decide +kernel
  refine ⟨hunused, ?_, by decide +kernel⟩
  exact (serve_eq_of_agree e).2 "x-cfg-" [("X-Cfg-Site", "East")] [] ("X-Cfg-Pod", "3") hunused
    (.scalar "motd") messages

end Engine

end LayeredConfig
