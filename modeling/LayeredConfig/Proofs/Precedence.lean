/-
Which layer a scalar comes from.  The layers of a key stand in the order in
which their templates are configured.  A lookup goes through them from the last
to the first: all of their values have to be expanded, the first layer gives
the answer, and the last one that fails gives the failure.
-/
import LayeredConfig.Proofs.Expansion

namespace LayeredConfig

open LayeredConfig.Action

/-- A full key has a colon in it. -/
theorem Settings.absoluteKey_ne_empty (settings : Settings) (path key : String) :
    settings.absoluteKey path key ≠ "" := by
  intro hempty
  have hchars := congrArg String.toList hempty
  simp [absoluteKey] at hchars

namespace View

variable {α : Type}

/-- What can be read in the layers of a key, with the full keys: one for each
template that the scope resolves and whose full key holds something that can be
read, in configured order. -/
def layers (v : View) (key : String) (read? : StoredValue → Option α) : List (String × α) :=
  v.settings.keyPaths.filterMap fun template =>
    (PathTemplate.resolve template v.scope).bind fun path =>
      ((v.entries.get? (v.settings.absoluteKey path key)).bind read?).map
        (v.settings.absoluteKey path key, ·)

/-- Lookups read the layers from the last to the first. -/
theorem stored_eq_reverse_layers (v : View) (key : String) (read? : StoredValue → Option α) :
    v.stored key read? = (v.layers key read?).reverse := by
  rw [stored, names, PathTemplate.resolvePaths, layers, List.filterMap_map,
    List.filterMap_reverse, List.filterMap_filterMap]
  rfl

theorem layers_source_ne_empty {v : View} {key : String} {read? : StoredValue → Option α}
    {layer : String × α} (h : layer ∈ v.layers key read?) : layer.1 ≠ "" := by
  obtain ⟨template, _, hlayer⟩ := List.mem_filterMap.1 h
  obtain ⟨path, _, hlayer⟩ := Option.bind_eq_some_iff.1 hlayer
  obtain ⟨value, _, rfl⟩ := Option.map_eq_some_iff.1 hlayer
  exact v.settings.absoluteKey_ne_empty path key

section Scalar

variable {value : String → Except Failure String}

/-- Expand the text of a layer in place of what the layers behind it gave. -/
def overlay (value : String → Except Failure String) (layer : String × String) (_ : Sourced) :
    Except Failure Sourced := do
  let text ← value layer.2
  return ⟨text, layer.1⟩

theorem overlay_eq_ok_iff {layer : String × String} {behind found : Sourced} :
    overlay value layer behind = .ok found ↔
      value layer.2 = .ok found.value ∧ found.source = layer.1 := by
  rw [overlay, bind_eq_ok_iff]
  constructor
  · rintro ⟨text, htext, hfound⟩
    cases hfound
    exact ⟨htext, rfl⟩
  · rintro ⟨htext, hsource⟩
    refine ⟨found.value, htext, ?_⟩
    rw [← hsource]
    rfl

/-- Going through the layers from the last to the first is the recursion on
their list: the layers behind come before the layer in front. -/
theorem reply_scalar_eq_foldrM (v : View) (key : String) :
    v.reply value (.scalar key) =
      (v.layers key StoredValue.string?).foldrM (overlay value) {} := by
  rw [reply, stored_eq_reverse_layers, List.foldlM_reverse]
  rfl

/-- An overlay needs every layer. -/
theorem exists_foldrM_overlay_iff {layers : List (String × String)} :
    (∃ found, layers.foldrM (overlay value) {} = .ok found) ↔
      ∀ layer ∈ layers, ∃ text, value layer.2 = .ok text := by
  induction layers with
  | nil => exact ⟨fun _ => nofun, fun _ => ⟨{}, rfl⟩⟩
  | cons first rest ih =>
      rw [List.forall_mem_cons]
      constructor
      · rintro ⟨found, hfound⟩
        rw [List.foldrM_cons] at hfound
        obtain ⟨behind, hbehind, hfirst⟩ := bind_eq_ok_iff.1 hfound
        exact ⟨⟨found.value, (overlay_eq_ok_iff.1 hfirst).1⟩, ih.1 ⟨behind, hbehind⟩⟩
      · rintro ⟨⟨text, htext⟩, hrest⟩
        obtain ⟨behind, hbehind⟩ := ih.2 hrest
        refine ⟨⟨text, first.1⟩, ?_⟩
        rw [List.foldrM_cons, hbehind]
        change overlay value first behind = .ok _
        exact overlay_eq_ok_iff.2 ⟨htext, rfl⟩

/-- It shows the first layer. -/
theorem foldrM_overlay_cons {first : String × String} {rest : List (String × String)}
    {found : Sourced} (h : (first :: rest).foldrM (overlay value) {} = .ok found) :
    value first.2 = .ok found.value ∧ found.source = first.1 := by
  rw [List.foldrM_cons] at h
  obtain ⟨behind, _, hfirst⟩ := bind_eq_ok_iff.1 h
  exact overlay_eq_ok_iff.1 hfirst

/-- It fails at the last layer that fails. -/
theorem foldrM_overlay_error_iff {layers : List (String × String)} {failure : Failure} :
    layers.foldrM (overlay value) {} = .error failure ↔
      ∃ before layer after, layers = before ++ layer :: after ∧
        value layer.2 = .error failure ∧ ∀ later ∈ after, ∃ text, value later.2 = .ok text := by
  induction layers with
  | nil =>
      constructor
      · intro h
        cases h
      · rintro ⟨before, layer, after, hlayers, _⟩
        exact absurd hlayers (by simp)
  | cons first rest ih =>
      rw [List.foldrM_cons, bind_eq_error_iff]
      constructor
      · -- what is behind goes first, so its failure hides one in front
        rintro (hrest | ⟨behind, hbehind, hfirst⟩)
        · obtain ⟨before, layer, after, rfl, hlayer⟩ := ih.1 hrest
          exact ⟨first :: before, layer, after, rfl, hlayer⟩
        · exact ⟨[], first, rest, rfl, bind_pure_eq_error_iff.1 hfirst,
            exists_foldrM_overlay_iff.1 ⟨behind, hbehind⟩⟩
      · rintro ⟨before, layer, after, hlayers, hlayer, hafter⟩
        cases before with
        | nil =>
            obtain ⟨rfl, rfl⟩ := List.cons.inj hlayers
            obtain ⟨behind, hbehind⟩ := exists_foldrM_overlay_iff.2 hafter
            exact Or.inr ⟨behind, hbehind, bind_pure_eq_error_iff.2 hlayer⟩
        | cons head before =>
            obtain ⟨rfl, rfl⟩ := List.cons.inj hlayers
            exact Or.inl (ih.2 ⟨before, layer, after, rfl, hlayer, hafter⟩)

end Scalar

end View

namespace MemoryStore

variable (settings : Settings) (scope : Scope) (order : FieldOrder) {m : MemoryStore}

/-- The first layer that is configured has a scalar's value.  There is an answer
just if the strings of all layers can be expanded, overridden ones included; it
is the expanded string of the first layer with its full key, and the empty value
just if no layer has a string.  Otherwise the failure is that of the last layer
in configured order whose string fails. -/
theorem lookupScalar_shows_first_layer (havailable : m.unavailable = false) (key : String) :
    ((∃ found, (((engine settings order).lookupScalar scope key).outcome m).1 = .ok found) ↔
      ∀ layer ∈ (m.view settings scope order).layers key StoredValue.string?, ∃ text,
        (((engine settings order).expand scope layer.2).outcome m).1 = .ok text) ∧
    (∀ found, (((engine settings order).lookupScalar scope key).outcome m).1 = .ok found →
      (∀ first rest,
        (m.view settings scope order).layers key StoredValue.string? = first :: rest →
          (((engine settings order).expand scope first.2).outcome m).1 = .ok found.value ∧
            found.source = first.1) ∧
      (found = {} ↔ (m.view settings scope order).layers key StoredValue.string? = [])) ∧
    ∀ failure,
      (((engine settings order).lookupScalar scope key).outcome m).1 = .error failure ↔
        ∃ before layer after,
          (m.view settings scope order).layers key StoredValue.string? =
            before ++ layer :: after ∧
          (((engine settings order).expand scope layer.2).outcome m).1 = .error failure ∧
          ∀ later ∈ after, ∃ text,
            (((engine settings order).expand scope later.2).outcome m).1 = .ok text := by
  have hexpand : ∀ text, (((engine settings order).expand scope text).outcome m).1 =
      (m.view settings scope order).expansionAt 0 text :=
    expandAt_result settings scope order havailable 0
  have hanswer : (((engine settings order).lookupScalar scope key).outcome m).1 =
      ((m.view settings scope order).layers key StoredValue.string?).foldrM
        (View.overlay ((m.view settings scope order).expansionAt 0)) {} := by
    rw [← View.reply_scalar_eq_foldrM]
    exact serve_result settings scope order havailable (.scalar key)
  simp only [hexpand, hanswer]
  refine ⟨View.exists_foldrM_overlay_iff, ?_, fun failure => View.foldrM_overlay_error_iff⟩
  intro found hfound
  have hsource : ∀ layer ∈ (m.view settings scope order).layers key StoredValue.string?,
      layer.1 ≠ "" := fun layer hlayer => View.layers_source_ne_empty hlayer
  generalize (m.view settings scope order).layers key StoredValue.string? = layers
    at hfound hsource ⊢
  constructor
  · rintro first rest rfl
    exact View.foldrM_overlay_cons hfound
  · cases layers with
    | nil =>
        cases hfound
        simp
    | cons first rest =>
        have hshown := (View.foldrM_overlay_cons hfound).2
        constructor
        · rintro rfl
          exact absurd hshown.symm (hsource first List.mem_cons_self)
        · intro hnil
          cases hnil

/-- A greeting for one site and one for all, with a name in it. -/
def greetings : MemoryStore where
  entries := NameMap.ofList
    [("cfg:default:greeting", .string "hello"), ("cfg:default:name", .string "you"),
      ("cfg:site/east:greeting", .string "hello $\x7bname\x7d")]

/-- The greeting of the site is shown; the layer of the pod does not apply. -/
theorem lookupScalar_shows_first_layer_greetings :
    let settings : Settings :=
      { keyPaths := ["pod/%\x7bpod\x7d", "site/%\x7bsite\x7d", "default"] }
    let scope := Scope.ofPairs [("site", "east")]
    greetings.unavailable = false ∧
      (greetings.view settings scope .byName).layers "greeting" StoredValue.string? =
        [("cfg:site/east:greeting", "hello $\x7bname\x7d"), ("cfg:default:greeting", "hello")] ∧
      (((engine settings .byName).lookupScalar scope "greeting").outcome greetings).1 =
        .ok ⟨"hello you", "cfg:site/east:greeting"⟩ := by
  intro settings scope
  have havailable : greetings.unavailable = false := rfl
  have hlayers : (greetings.view settings scope .byName).layers "greeting" StoredValue.string? =
      [("cfg:site/east:greeting", "hello $\x7bname\x7d"), ("cfg:default:greeting", "hello")] := by
    decide +kernel
  have hfirst : (((engine settings .byName).expand scope "hello $\x7bname\x7d").outcome
      greetings).1 = .ok "hello you" := by decide +kernel
  have hlast : (((engine settings .byName).expand scope "hello").outcome greetings).1 =
      .ok "hello" := by decide +kernel
  obtain ⟨hanswered, hshown, _⟩ :=
    lookupScalar_shows_first_layer settings scope .byName havailable "greeting"
  obtain ⟨⟨text, source⟩, hfound⟩ := hanswered.2 (by
    rw [hlayers]
    simp only [List.forall_mem_cons, hfirst, hlast]
    simp)
  obtain ⟨hvalue, hsource⟩ := (hshown _ hfound).1 _ _ hlayers
  rw [hfirst] at hvalue
  cases hvalue
  obtain rfl : source = "cfg:site/east:greeting" := hsource
  exact ⟨havailable, hlayers, hfound⟩

end MemoryStore

end LayeredConfig
