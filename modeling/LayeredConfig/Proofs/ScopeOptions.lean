/-
Scopes from the command line.  The variables given with options make up the
same scope as headers that carry them behind a marker, if the marker ends in a
hyphen: what stands in front of a hyphen has no part in how the text behind it
is lower-cased.
-/
import LayeredConfig.CommandLine.Options
import LayeredConfig.Proofs.HeaderScope
import LayeredConfig.Proofs.Listing

namespace LayeredConfig

namespace CommandLine

/-- The scope of options of which each is written as a variable with its
value, if all of them can be read. -/
def scopeOf? (texts : List String) : Option Scope :=
  (texts.mapM scopeVariable?).map Scope.ofPairs

theorem Options.add?_scope (options : Options) (text : String) :
    options.add? .scope text.toUTF8 =
      (scopeVariable? text).map fun pair =>
        { options with scope := options.scope ++ [pair] } := by
  rw [add?, Text.fromUTF8?_toUTF8, Option.bind_some]

/-- Add options for the scope, one after another. -/
def Options.addScope? (options : Options) (texts : List String) : Option Options :=
  texts.foldlM (fun gathered text => Options.add? gathered .scope text.toUTF8) options

/-- The variables are gathered in the order of their options, unless one of
them cannot be read. -/
theorem Options.addScope?_eq (options : Options) (texts : List String) :
    options.addScope? texts =
      (texts.mapM scopeVariable?).map fun pairs =>
        { options with scope := options.scope ++ pairs } := by
  induction texts generalizing options with
  | nil => simp [addScope?]
  | cons text rest ih =>
      rw [addScope?, List.foldlM_cons, List.mapM_cons, add?_scope]
      cases scopeVariable? text with
      | none => rfl
      | some pair =>
          have hrest := ih { options with scope := options.scope ++ [pair] }
          change Options.addScope? { options with scope := options.scope ++ [pair] } rest = _
          rw [hrest]
          cases rest.mapM scopeVariable? with
          | none => rfl
          | some pairs => simp

/-- The scope that is made of what a run gathers. -/
theorem scopeOf?_eq_addScope? (texts : List String) :
    scopeOf? texts =
      (Options.addScope? {} texts).map fun options => Scope.ofPairs options.scope := by
  rw [Options.addScope?_eq, Option.map_map]
  rfl

theorem scopeVariable?_written {name : String} (hname : name ≠ "") (hmark : '=' ∉ name.toList)
    (value : String) :
    scopeVariable? (name ++ "=" ++ value) =
      some (Text.lowercase name, Text.lowercase value) := by
  have htext : (name ++ "=" ++ value).toList = name.toList ++ '=' :: value.toList := by simp
  have hbefore : ∀ c ∈ name.toList, (c != '=') = true := by
    intro c hc
    rw [bne_iff_ne]
    rintro rfl
    exact hmark hc
  rw [scopeVariable?, htext, List.takeWhile_append_of_pos hbefore,
    List.dropWhile_append_of_pos hbefore, List.takeWhile_cons_of_neg (by decide),
    List.dropWhile_cons_of_neg (by decide)]
  simp [hname]

variable {pairs : List (String × String)}

theorem scopeOf?_written (hnames : ∀ pair ∈ pairs, pair.1 ≠ "" ∧ '=' ∉ pair.1.toList) :
    scopeOf? (pairs.map fun pair => pair.1 ++ "=" ++ pair.2) =
      some (Scope.ofPairs (pairs.map fun pair => (Text.lowercase pair.1, Text.lowercase pair.2))) := by
  have hread : (pairs.map fun pair => pair.1 ++ "=" ++ pair.2).mapM scopeVariable? =
      some (pairs.map fun pair => (Text.lowercase pair.1, Text.lowercase pair.2)) := by
    rw [List.mapM_map]
    exact mapM_eq_pure fun pair hpair =>
      scopeVariable?_written (hnames pair hpair).1 (hnames pair hpair).2 pair.2
  rw [scopeOf?, hread]
  rfl

end CommandLine

namespace Scope

variable {pairs : List (String × String)}

/-- A marker that ends in a hyphen is cut off a header in lower case, and what
is left is the name behind it in lower case. -/
theorem headerVariable?_hyphen (stem : String) {name : String} (hname : name ≠ "") :
    headerVariable? (Text.lowercase (stem ++ "-")) (stem ++ "-" ++ name) =
      some (Text.lowercase name) := by
  rw [headerVariable?_eq_some_iff, ne_eq, Text.lowercase_eq_empty_iff]
  exact ⟨hname, Text.lowercase_append_of_hyphen stem name⟩

/-- Behind one marker different names stay different. -/
theorem nodup_headers_hyphen (stem : String)
    (hdistinct : (pairs.map fun pair => Text.lowercase pair.1).Nodup) :
    ((pairs.map fun pair => (stem ++ "-" ++ pair.1, pair.2)).map
      fun header => Text.lowercase header.1).Nodup := by
  have hinjective : Function.Injective (Text.lowercase (stem ++ "-") ++ ·) :=
    fun _ _ h => (String.append_right_inj _).1 h
  have hlower : (fun pair : String × String => Text.lowercase (stem ++ "-" ++ pair.1)) =
      (Text.lowercase (stem ++ "-") ++ ·) ∘ fun pair => Text.lowercase pair.1 :=
    funext fun pair => Text.lowercase_append_of_hyphen stem pair.1
  rw [List.map_map, Function.comp_def, hlower, ← List.map_map]
  exact hdistinct.map hinjective

end Scope

end LayeredConfig
