/-
Lists that are read item by item, and maps that are made of a list of names
with values.  A name has the value that it is given last; where every name is
given once, the order of the list makes no difference.
-/
import LayeredConfig.NameMap
import Mathlib.Data.List.Nodup

namespace LayeredConfig

/-- If no item stops the reading, the list is read as a whole. -/
theorem mapM_eq_pure {m : Type → Type} [Monad m] [LawfulMonad m] {α β : Type} {read : α → m β}
    {out : α → β} {items : List α} (h : ∀ item ∈ items, read item = pure (out item)) :
    items.mapM read = pure (items.map out) := by
  induction items with
  | nil => rw [List.mapM_nil, List.map_nil]
  | cons head rest ih =>
      obtain ⟨hhead, hrest⟩ := List.forall_mem_cons.1 h
      rw [List.mapM_cons, hhead, ih hrest, pure_bind, pure_bind, List.map_cons]

/-- What is written item by item is read back. -/
theorem mapM_map_eq_some {α β : Type} {read : β → Option α} {write : α → β}
    (h : ∀ item, read (write item) = some item) (items : List α) :
    (items.map write).mapM read = some items := by
  have hread : items.mapM (read ∘ write) = some (items.map id) :=
    mapM_eq_pure fun item _ => h item
  rw [List.mapM_map, hread, List.map_id]

namespace NameMap

variable {β : Type}

/-- Define the names of a list from the left, on top of what is defined. -/
def insertAll (m : NameMap β) (pairs : List (String × β)) : NameMap β :=
  pairs.foldl (fun m pair => m.insert pair.1 pair.2) m

/-- The last value that a name is given is the one that it has. -/
theorem get?_insertAll (m : NameMap β) (pairs : List (String × β)) (name : String) :
    (m.insertAll pairs).get? name =
      ((pairs.filter fun pair => pair.1 == name).getLast?.map Prod.snd).or (m.get? name) := by
  induction pairs generalizing m with
  | nil => rfl
  | cons head rest ih =>
      have ih := ih (m.insert head.1 head.2)
      rw [insertAll] at ih ⊢
      rw [List.foldl_cons, ih, get?_insert]
      by_cases hname : name = head.1
      · rw [List.filter_cons_of_pos (by simp [hname]), List.getLast?_cons, if_pos hname]
        cases (rest.filter fun pair => pair.1 == name).getLast? <;> rfl
      · rw [List.filter_cons_of_neg (by simpa using Ne.symm hname), if_neg hname]

/-- To define the same names once more changes nothing. -/
theorem insertAll_insertAll (m : NameMap β) (pairs : List (String × β)) :
    (m.insertAll pairs).insertAll pairs = m.insertAll pairs := by
  apply ext_get?
  intro name
  rw [get?_insertAll, get?_insertAll, ← Option.or_assoc, Option.or_self]

section Distinct

variable {pairs : List (String × β)}

/-- Names that are given once have the values that they are given. -/
theorem get?_ofList_eq_some_iff (hdistinct : (pairs.map Prod.fst).Nodup) {name : String}
    {value : β} : (ofList pairs).get? name = some value ↔ (name, value) ∈ pairs := by
  have hlast : (ofList pairs).get? name =
      (pairs.filter fun pair => pair.1 == name).getLast?.map Prod.snd := by
    change (empty.insertAll pairs).get? name = _
    rw [get?_insertAll, get?_empty, Option.or_none]
  rw [hlast, Option.map_eq_some_iff]
  constructor
  · rintro ⟨pair, hpair, rfl⟩
    obtain ⟨hmem, hname⟩ := List.mem_filter.1 (List.mem_of_getLast? hpair)
    rw [← eq_of_beq hname]
    exact hmem
  · intro hmem
    have hfilter : (name, value) ∈ pairs.filter fun pair => pair.1 == name :=
      List.mem_filter.2 ⟨hmem, beq_self_eq_true name⟩
    obtain ⟨pair, hpair⟩ : ∃ pair, (pairs.filter fun pair => pair.1 == name).getLast? = some pair :=
      ⟨_, List.getLast?_eq_some_getLast (List.ne_nil_of_mem hfilter)⟩
    obtain ⟨hpairMem, hname⟩ := List.mem_filter.1 (List.mem_of_getLast? hpair)
    have hsame : pair = (name, value) :=
      List.inj_on_of_nodup_map hdistinct hpairMem hmem (eq_of_beq hname)
    exact ⟨pair, hpair, congrArg Prod.snd hsame⟩

theorem nodup_entries (m : NameMap β) : (m.entries.map Prod.fst).Nodup := by
  rw [List.nodup_iff_pairwise_ne, List.pairwise_map]
  refine m.sorted.imp ?_
  intro a b hlt heq
  rw [heq] at hlt
  exact String.lt_irrefl b.1 hlt

/-- A map is made again of its entries, in whatever order they are listed. -/
theorem ofList_of_perm {m : NameMap β} (hperm : pairs.Perm m.entries) : ofList pairs = m := by
  have hdistinct : (pairs.map Prod.fst).Nodup := (hperm.map _).nodup_iff.2 m.nodup_entries
  apply ext_get?
  intro name
  ext value
  rw [get?_ofList_eq_some_iff hdistinct, hperm.mem_iff, mem_entries_iff]

end Distinct

end NameMap

end LayeredConfig
