/-
Which entries a list is made of, and which of them an index selects.  The lists
of all layers are put one after another, the last configured layer first, and
an index counts through all of them.  Only the entry that it selects is
expanded.
-/
import LayeredConfig.Proofs.Precedence
import LayeredConfig.Proofs.StoreCalls

namespace LayeredConfig

open LayeredConfig.Action

/-- A negative index is refused before the store is looked at. -/
theorem Engine.outcome_negativeIndex {σ : Type} (e : Engine σ) (scope : Scope) (key : String)
    {index : Int} (hindex : index < 0) (state : σ) :
    (e.lookupListIndex scope key index).outcome state =
      (.error (.negativeListIndex key index), state) := by
  rw [lookupListIndex, listIndexBy, if_pos hindex]
  rfl

namespace View

variable {v : View} {value : String → Except Failure String} {key : String} {index : Int}

theorem listEntries_eq_layers (v : View) (key : String) :
    v.listEntries key = (v.layers key StoredValue.list?).reverse.flatMap fun layer =>
      layer.2.map fun text => ⟨text, layer.1⟩ := by
  rw [listEntries, stored_eq_reverse_layers]

theorem reply_listIndex_beyond (hindex : (v.listEntries key).length ≤ index) :
    v.reply value (.listIndex key index) =
      .error (.listIndexOutOfRange key index (v.listEntries key).length) := by
  have hnegative : ¬ index < 0 := by omega
  have hnone : (v.listEntries key)[index.toNat]? = none := by
    apply List.getElem?_eq_none
    omega
  simp only [reply, if_neg hnegative, hnone]
  rfl

/-- The entry that an index selects is all that is looked at. -/
theorem reply_listIndex_selected {entry : Sourced} (hindex : 0 ≤ index)
    (hentry : (v.listEntries key)[index.toNat]? = some entry) :
    v.reply value (.listIndex key index) = overlay value (entry.source, entry.value) {} := by
  have hnegative : ¬ index < 0 := by omega
  simp only [reply, if_neg hnegative, hentry]
  rfl

end View

namespace MemoryStore

variable (settings : Settings) (scope : Scope) (order : FieldOrder) {m : MemoryStore}

/-- A list is the lists of its layers one after another, last configured layer
first, one for each template, with the entries as they are stored.  A negative
index is refused without asking the store anything, one behind the end is
refused with the length of the whole, and any other selects one entry: only
that one has to be expanded, and it keeps its layer. -/
theorem lookupListIndex_selects (havailable : m.unavailable = false) (key : String) :
    let entries : List Sourced :=
      ((m.view settings scope order).layers key StoredValue.list?).reverse.flatMap fun layer =>
        layer.2.map fun text => ⟨text, layer.1⟩
    (((engine settings order).lookupList scope key).outcome m).1 = .ok entries ∧
    ∀ index : Int,
      (index < 0 →
        (((engine settings order).lookupListIndex scope key index).outcome m).1 =
          .error (.negativeListIndex key index) ∧
        ∀ calls,
          (Engine.lookupListIndex ⟨settings, (store.withFieldOrder order).watched⟩ scope key
              index).outcome ⟨m, calls⟩ =
            (.error (.negativeListIndex key index), ⟨m, calls⟩)) ∧
      (entries.length ≤ index →
        (((engine settings order).lookupListIndex scope key index).outcome m).1 =
          .error (.listIndexOutOfRange key index entries.length)) ∧
      ∀ entry, 0 ≤ index → entries[index.toNat]? = some entry →
        (∀ found,
          (((engine settings order).lookupListIndex scope key index).outcome m).1 = .ok found ↔
            (((engine settings order).expand scope entry.value).outcome m).1 =
              .ok found.value ∧ found.source = entry.source) ∧
        ∀ failure,
          (((engine settings order).lookupListIndex scope key index).outcome m).1 =
              .error failure ↔
            (((engine settings order).expand scope entry.value).outcome m).1 =
              .error failure := by
  intro entries
  have hentries : (m.view settings scope order).listEntries key = entries :=
    View.listEntries_eq_layers _ key
  have hexpand : ∀ text, (((engine settings order).expand scope text).outcome m).1 =
      (m.view settings scope order).expansionAt 0 text :=
    expandAt_result settings scope order havailable 0
  have hanswer : ∀ index,
      (((engine settings order).lookupListIndex scope key index).outcome m).1 =
        (m.view settings scope order).reply ((m.view settings scope order).expansionAt 0)
          (.listIndex key index) :=
    fun index => serve_result settings scope order havailable (.listIndex key index)
  have hlist : (((engine settings order).lookupList scope key).outcome m).1 = .ok entries := by
    rw [← hentries]
    exact serve_result settings scope order havailable (.list key)
  refine ⟨hlist, fun index => ⟨fun hindex => ⟨?_, fun calls => ?_⟩, fun hindex => ?_,
    fun entry hindex hentry => ?_⟩⟩
  · rw [Engine.outcome_negativeIndex _ scope key hindex]
  · exact Engine.outcome_negativeIndex _ scope key hindex _
  · rw [hanswer, ← hentries]
    exact View.reply_listIndex_beyond (by rw [hentries]; exact hindex)
  · rw [← hentries] at hentry
    simp only [hanswer, hexpand, View.reply_listIndex_selected hindex hentry]
    exact ⟨fun found => View.overlay_eq_ok_iff, fun failure => bind_pure_eq_error_iff⟩

/-- Servers of one site and of all, one of them with a name in it and one that
cannot be expanded. -/
def servers : MemoryStore where
  entries := NameMap.ofList
    [("cfg:default:loop", .string "$\x7bloop\x7d"), ("cfg:default:name", .string "main"),
      ("cfg:default:servers", .list ["$\x7bloop\x7d", "$\x7bname\x7d.all"]),
      ("cfg:site/east:servers", .list ["east"])]

/-- A layer that is configured twice counts twice, and the entry that cannot be
expanded makes no difference to the one behind it. -/
theorem lookupListIndex_selects_servers :
    let settings : Settings :=
      { keyPaths := ["site/%\x7bsite\x7d", "default", "pod/%\x7bpod\x7d", "default"] }
    let scope := Scope.ofPairs [("site", "east")]
    let lookup := fun index =>
      (((engine settings .byName).lookupListIndex scope "servers" index).outcome servers).1
    servers.unavailable = false ∧
      lookup (-1) = .error (.negativeListIndex "servers" (-1)) ∧
      lookup 3 = .ok ⟨"main.all", "cfg:default:servers"⟩ ∧
      lookup 5 = .error (.listIndexOutOfRange "servers" 5 5) := by
  intro settings scope lookup
  have havailable : servers.unavailable = false := rfl
  have hexpanded : (((engine settings .byName).expand scope "$\x7bname\x7d.all").outcome
      servers).1 = .ok "main.all" := by decide +kernel
  obtain ⟨_, hindex⟩ := lookupListIndex_selects settings scope .byName havailable "servers"
  have hlength : (((servers.view settings scope .byName).layers "servers"
      StoredValue.list?).reverse.flatMap fun layer =>
        layer.2.map fun text => (⟨text, layer.1⟩ : Sourced)).length = 5 := by decide +kernel
  refine ⟨havailable, ((hindex (-1)).1 (by decide)).1, ?_, ?_⟩
  · refine (((hindex 3).2.2 ⟨"$\x7bname\x7d.all", "cfg:default:servers"⟩ (by decide)
      (by decide +kernel)).1 _).2 ⟨hexpanded, rfl⟩
  · have hbeyond := (hindex 5).2.1
    rw [hlength] at hbeyond
    exact hbeyond (by decide)

end MemoryStore

end LayeredConfig
