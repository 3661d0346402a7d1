/-
The scope that the headers of a request define.  A variable has the value of
the first header whose name is the marker with the name of the variable behind
it, all in lower case.  So more headers behind those of a request change no
variable that is defined, the order of headers with different names makes no
difference, and neither does the case of letters of ASCII.
-/
import LayeredConfig.Proofs.Lowercasing
import LayeredConfig.Scope
import Mathlib.Data.List.Find
import Mathlib.Data.List.Nodup

namespace LayeredConfig.Scope

variable {marker name value : String} {headers : List (String × String)}

theorem headerVariable?_eq_some_iff {header : String} :
    headerVariable? marker header = some name ↔
      name ≠ "" ∧ Text.lowercase header = marker ++ name := by
  have hcut : ∀ rest, marker.toList.isPrefixOf? (Text.lowercase header).toList = some rest ↔
      Text.lowercase header = marker ++ String.ofList rest := by
    intro rest
    rw [List.isPrefixOf?_eq_some_iff_append_eq, ← String.toList_inj, String.toList_append,
      String.toList_ofList, eq_comm]
  unfold headerVariable?
  constructor
  · intro h
    split at h
    · next c cs hrest =>
        obtain rfl := Option.some.inj h
        exact ⟨by simp [← String.toList_eq_nil_iff], (hcut _).1 hrest⟩
    · contradiction
  · rintro ⟨hne, hheader⟩
    have hrest : marker.toList.isPrefixOf? (Text.lowercase header).toList = some name.toList := by
      rw [hcut, String.ofList_toList, hheader]
    obtain ⟨c, cs, hcs⟩ := List.exists_cons_of_ne_nil
      (fun hnil => hne (String.toList_eq_nil_iff.1 hnil) : name.toList ≠ [])
    rw [hrest, hcs]
    simp only [← hcs, String.ofList_toList]

/-- A header defines its variable unless that has a value. -/
theorem get?_addHeader (marker : String) (scope : Scope) (header : String × String)
    (name : String) :
    (scope.addHeader marker header).get? name =
      (scope.get? name).or
        (if headerVariable? marker header.1 = some name then some (Text.lowercase header.2)
          else none) := by
  unfold addHeader
  cases hvariable : headerVariable? marker header.1 with
  | none => rw [if_neg (Option.some_ne_none name).symm, Option.or_none]
  | some var =>
      rw [get?, get?, NameMap.get?_insertNew]
      by_cases hname : name = var
      · subst hname
        rw [if_pos rfl, if_pos rfl]
        cases scope.vars.get? name <;> rfl
      · rw [if_neg hname, if_neg fun hvar => hname (Option.some.inj hvar).symm, Option.or_none]

/-- The first header for a variable counts. -/
theorem get?_ofHeaders (marker : String) (headers : List (String × String)) (name : String) :
    (ofHeaders marker headers).get? name =
      (headers.find? fun header =>
        headerVariable? (Text.lowercase marker) header.1 = some name).map
          fun header => Text.lowercase header.2 := by
  -- From whatever scope the run starts, what is defined there stays.
  have hrun : ∀ scope : Scope,
      (headers.foldl (addHeader (Text.lowercase marker)) scope).get? name =
        (scope.get? name).or ((headers.find? fun header =>
          headerVariable? (Text.lowercase marker) header.1 = some name).map
            fun header => Text.lowercase header.2) := by
    induction headers with
    | nil => exact fun scope => Option.or_none.symm
    | cons header rest ih =>
        intro scope
        rw [List.foldl_cons, ih, get?_addHeader, Option.or_assoc, List.find?_cons]
        by_cases hvariable : headerVariable? (Text.lowercase marker) header.1 = some name
        · simp [hvariable]
        · simp [hvariable]
  exact hrun empty

theorem get?_ofHeaders_append (marker : String) (headers more : List (String × String))
    (name : String) :
    (ofHeaders marker (headers ++ more)).get? name =
      ((ofHeaders marker headers).get? name).or ((ofHeaders marker more).get? name) := by
  rw [get?_ofHeaders, get?_ofHeaders, get?_ofHeaders, List.find?_append, Option.map_or]

/-- Where all headers have different names, each of them counts. -/
theorem get?_ofHeaders_eq_some_iff
    (hdistinct : (headers.map fun header => Text.lowercase header.1).Nodup) :
    (ofHeaders marker headers).get? name = some value ↔
      ∃ header ∈ headers, headerVariable? (Text.lowercase marker) header.1 = some name ∧
        Text.lowercase header.2 = value := by
  rw [get?_ofHeaders, Option.map_eq_some_iff]
  constructor
  · rintro ⟨header, hfound, hvalue⟩
    have hvariable := List.find?_some hfound
    simp only [decide_eq_true_eq] at hvariable
    exact ⟨header, List.mem_of_find?_eq_some hfound, hvariable, hvalue⟩
  · rintro ⟨header, hmem, hvariable, hvalue⟩
    refine ⟨header, ?_, hvalue⟩
    cases hfound : headers.find? fun header =>
        headerVariable? (Text.lowercase marker) header.1 = some name with
    | none =>
        have hnone := List.find?_eq_none.1 hfound header hmem
        simp only [decide_eq_true_eq] at hnone
        exact absurd hvariable hnone
    | some found =>
        have hother := List.find?_some hfound
        simp only [decide_eq_true_eq] at hother
        have hnames := (headerVariable?_eq_some_iff.1 hother).2.trans
          (headerVariable?_eq_some_iff.1 hvariable).2.symm
        rw [List.inj_on_of_nodup_map hdistinct (List.mem_of_find?_eq_some hfound) hmem hnames]

/-- A scope is known by the values of its variables. -/
theorem ext_get? {scope other : Scope} (h : ∀ name, scope.get? name = other.get? name) :
    scope = other := by
  obtain ⟨vars⟩ := scope
  obtain ⟨otherVars⟩ := other
  exact congrArg Scope.mk (NameMap.ext_get? h)

theorem ofHeaders_perm {other : List (String × String)} (marker : String)
    (hperm : headers.Perm other)
    (hdistinct : (headers.map fun header => Text.lowercase header.1).Nodup) :
    ofHeaders marker other = ofHeaders marker headers := by
  have hnames : (headers.map fun header => Text.lowercase header.1).Perm
      (other.map fun header => Text.lowercase header.1) := hperm.map _
  have hdistinct' := hnames.nodup_iff.1 hdistinct
  apply ext_get?
  intro name
  ext value
  rw [get?_ofHeaders_eq_some_iff hdistinct, get?_ofHeaders_eq_some_iff hdistinct']
  simp only [hperm.mem_iff]

/-- Two headers differ in nothing but the case of letters of ASCII. -/
def SameHeader (header other : String × String) : Prop :=
  Text.SameLetters header.1 other.1 ∧ Text.SameLetters header.2 other.2

instance (header other : String × String) : Decidable (SameHeader header other) :=
  inferInstanceAs (Decidable (_ ∧ _))

theorem addHeader_sameHeader (marker : String) (scope : Scope) {header other : String × String}
    (h : SameHeader header other) :
    scope.addHeader marker other = scope.addHeader marker header := by
  have hvariable : headerVariable? marker other.1 = headerVariable? marker header.1 := by
    rw [headerVariable?, headerVariable?, h.1.lowercase_eq]
  rw [addHeader, addHeader, hvariable, h.2.lowercase_eq]

theorem ofHeaders_sameHeader {marker other : String} {headers others : List (String × String)}
    (hmarker : Text.SameLetters marker other) (h : List.Forall₂ SameHeader headers others) :
    ofHeaders other others = ofHeaders marker headers := by
  rw [ofHeaders, ofHeaders, hmarker.lowercase_eq]
  generalize empty = scope
  induction h generalizing scope with
  | nil => rfl
  | cons hsame _ ih => rw [List.foldl_cons, List.foldl_cons, addHeader_sameHeader _ _ hsame, ih]

end LayeredConfig.Scope
