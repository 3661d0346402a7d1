/-
Finite maps from names to values, kept as a list in strictly increasing name
order.  The order is by code point, so the list is also the order in which
such a map is written out, and two maps with the same answers are equal.
-/
namespace LayeredConfig

universe u v

variable {β : Type u} {γ : Type v}

/-- A finite map whose entries increase strictly by name. -/
structure NameMap (β : Type u) where
  entries : List (String × β)
  sorted : entries.Pairwise fun a b => a.1 < b.1
deriving DecidableEq

namespace NameMap

/-- Put an entry where its name belongs, in place of one of that name. -/
def place (name : String) (value : β) : List (String × β) → List (String × β)
  | [] => [(name, value)]
  | (head, kept) :: rest =>
      if name < head then (name, value) :: (head, kept) :: rest
      else if name = head then (name, value) :: rest
      else (head, kept) :: place name value rest

/-- The value found under a name by walking the entries. -/
def find? (name : String) : List (String × β) → Option β
  | [] => none
  | (head, value) :: rest => if name = head then some value else find? name rest

theorem mem_place_imp {name : String} {value : β} {entry : String × β}
    {entries : List (String × β)} (h : entry ∈ place name value entries) :
    entry = (name, value) ∨ entry ∈ entries := by
  induction entries with
  | nil => simpa [place] using h
  | cons head rest ih =>
      simp only [place] at h
      split at h
      · simpa using h
      · split at h
        · rcases List.mem_cons.1 h with rfl | h
          · exact Or.inl rfl
          · exact Or.inr (List.mem_cons_of_mem _ h)
        · rcases List.mem_cons.1 h with rfl | h
          · exact Or.inr List.mem_cons_self
          · exact (ih h).imp_right (List.mem_cons_of_mem _)

theorem place_sorted (name : String) (value : β) {entries : List (String × β)}
    (h : entries.Pairwise fun a b => a.1 < b.1) :
    (place name value entries).Pairwise fun a b => a.1 < b.1 := by
  induction entries with
  | nil => simp [place]
  | cons head rest ih =>
      obtain ⟨hhead, hrest⟩ := List.pairwise_cons.1 h
      simp only [place]
      split
      · next hlt =>
          refine List.pairwise_cons.2 ⟨fun entry hentry => ?_, h⟩
          rcases List.mem_cons.1 hentry with rfl | hentry
          · exact hlt
          · exact String.lt_trans hlt (hhead entry hentry)
      · next hnot =>
          split
          · next heq => exact List.pairwise_cons.2 ⟨heq ▸ hhead, hrest⟩
          · next hne =>
              refine List.pairwise_cons.2 ⟨fun entry hentry => ?_, ih hrest⟩
              rcases mem_place_imp hentry with rfl | hentry
              · exact String.not_le.1 fun hle =>
                  hne (String.le_antisymm hle (String.not_lt.1 hnot))
              · exact hhead entry hentry

def empty : NameMap β := ⟨[], List.Pairwise.nil⟩

instance : Inhabited (NameMap β) := ⟨empty⟩

def get? (m : NameMap β) (name : String) : Option β :=
  find? name m.entries

def contains (m : NameMap β) (name : String) : Bool :=
  (m.get? name).isSome

/-- Define a name, whether it had a value or not. -/
def insert (m : NameMap β) (name : String) (value : β) : NameMap β :=
  ⟨place name value m.entries, place_sorted name value m.sorted⟩

/-- Define a name unless it has a value. -/
def insertNew (m : NameMap β) (name : String) (value : β) : NameMap β :=
  if m.contains name then m else m.insert name value

def erase (m : NameMap β) (name : String) : NameMap β :=
  ⟨m.entries.filter fun entry => entry.1 != name, m.sorted.filter _⟩

/-- Leave out all names that are marked. -/
def without (m : NameMap β) (gone : String → Bool) : NameMap β :=
  ⟨m.entries.filter fun entry => !gone entry.1, m.sorted.filter _⟩

/-- Replace every value; names and order stay. -/
def map (f : β → γ) (m : NameMap β) : NameMap γ :=
  ⟨m.entries.map fun entry => (entry.1, f entry.2),
    m.sorted.map _ fun _ _ h => h⟩

/-- Define the names of a list from the left; the last of equal names stays. -/
def ofList (entries : List (String × β)) : NameMap β :=
  entries.foldl (fun m entry => m.insert entry.1 entry.2) empty

/-- The names, in increasing order. -/
def names (m : NameMap β) : List String :=
  m.entries.map Prod.fst

/-- How many names are defined. -/
def size (m : NameMap β) : Nat := m.entries.length

def isEmpty (m : NameMap β) : Bool := m.entries.isEmpty

theorem find?_place_self (name : String) (value : β) (entries : List (String × β)) :
    find? name (place name value entries) = some value := by
  induction entries with
  | nil => simp [place, find?]
  | cons head rest ih =>
      simp only [place]
      split
      · simp [find?]
      · split
        · simp [find?]
        · next hne => simpa [find?, hne] using ih

theorem find?_place_of_ne {name other : String} (h : other ≠ name) (value : β)
    (entries : List (String × β)) :
    find? other (place name value entries) = find? other entries := by
  induction entries with
  | nil => simp [place, find?, h]
  | cons head rest ih =>
      simp only [place]
      split
      · simp [find?, h]
      · split
        · next heq => simp [find?, h, ← heq]
        · simp [find?, ih]

@[simp] theorem get?_empty (name : String) : (empty : NameMap β).get? name = none := rfl

@[simp] theorem get?_insert_self (m : NameMap β) (name : String) (value : β) :
    (m.insert name value).get? name = some value :=
  find?_place_self name value m.entries

theorem isEmpty_insert (m : NameMap β) (name : String) (value : β) :
    (m.insert name value).isEmpty = false := by
  cases hempty : (m.insert name value).isEmpty with
  | false => rfl
  | true =>
      have hnil : (m.insert name value).entries = [] := List.isEmpty_iff.1 hempty
      have hfound := m.get?_insert_self name value
      rw [get?, hnil] at hfound
      cases hfound

theorem get?_insert_of_ne (m : NameMap β) {name other : String} (h : other ≠ name)
    (value : β) : (m.insert name value).get? other = m.get? other :=
  find?_place_of_ne h value m.entries

theorem get?_insert (m : NameMap β) (name other : String) (value : β) :
    (m.insert name value).get? other = if other = name then some value else m.get? other := by
  split
  · next h => rw [h, get?_insert_self]
  · next h => exact get?_insert_of_ne m h value

theorem get?_insertNew (m : NameMap β) (name other : String) (value : β) :
    (m.insertNew name value).get? other =
      if other = name then some ((m.get? name).getD value) else m.get? other := by
  unfold insertNew contains
  cases hfound : m.get? name with
  | none => exact get?_insert m name other value
  | some found =>
      by_cases hother : other = name
      · simp [hother, hfound]
      · simp [hother]

theorem get?_without (m : NameMap β) (gone : String → Bool) (name : String) :
    (m.without gone).get? name = if gone name then none else m.get? name := by
  simp only [get?, without]
  induction m.entries with
  | nil => simp [find?]
  | cons head rest ih =>
      by_cases hgone : gone head.1 = true
      · by_cases hname : name = head.1
        · simpa [hname, hgone] using ih
        · simpa [find?, hname, hgone] using ih
      · by_cases hname : name = head.1
        · simp [find?, hname, hgone]
        · simpa [find?, hname, hgone] using ih

theorem get?_erase (m : NameMap β) (name other : String) :
    (m.erase name).get? other = if other = name then none else m.get? other := by
  have hsame : m.erase name = m.without (· == name) := rfl
  simp [hsame, get?_without]

theorem get?_map (f : β → γ) (m : NameMap β) (name : String) :
    (m.map f).get? name = (m.get? name).map f := by
  simp only [get?, map]
  induction m.entries with
  | nil => rfl
  | cons head rest ih =>
      simp only [List.map_cons, find?, ih]
      split <;> rfl

theorem find?_eq_none_of_lt {name : String} {entries : List (String × β)}
    (h : ∀ entry ∈ entries, name < entry.1) : find? name entries = none := by
  induction entries with
  | nil => rfl
  | cons head rest ih =>
      have hne : name ≠ head.1 := fun heq =>
        String.lt_irrefl name (heq ▸ h head List.mem_cons_self : name < name)
      simpa [find?, hne] using ih fun entry hentry => h entry (List.mem_cons_of_mem _ hentry)

theorem find?_isSome_imp_mem {name : String} {value : β} {entries : List (String × β)}
    (h : find? name entries = some value) : (name, value) ∈ entries := by
  induction entries with
  | nil => simp [find?] at h
  | cons head rest ih =>
      simp only [find?] at h
      split at h
      · next heq =>
          cases h
          exact heq ▸ List.mem_cons_self
      · exact List.mem_cons_of_mem _ (ih h)

theorem find?_eq_some_of_mem {name : String} {value : β} {entries : List (String × β)}
    (hsorted : entries.Pairwise fun a b => a.1 < b.1) (h : (name, value) ∈ entries) :
    find? name entries = some value := by
  induction entries with
  | nil => cases h
  | cons head rest ih =>
      obtain ⟨hhead, hrest⟩ := List.pairwise_cons.1 hsorted
      rcases List.mem_cons.1 h with rfl | h
      · simp [find?]
      · have hlt : head.1 < name := hhead (name, value) h
        have hne : name ≠ head.1 := fun heq => String.lt_irrefl name (heq ▸ hlt)
        simpa [find?, hne] using ih hrest h

/-- The entries are exactly the answers. -/
theorem mem_entries_iff (m : NameMap β) (name : String) (value : β) :
    (name, value) ∈ m.entries ↔ m.get? name = some value :=
  ⟨find?_eq_some_of_mem m.sorted, find?_isSome_imp_mem⟩

/-- A map is known by its answers. -/
theorem ext_get? {m n : NameMap β} (h : ∀ name, m.get? name = n.get? name) : m = n := by
  obtain ⟨ms, hm⟩ := m
  obtain ⟨ns, hn⟩ := n
  simp only [get?] at h
  congr 1
  induction ms generalizing ns with
  | nil =>
      cases ns with
      | nil => rfl
      | cons head rest => simpa [find?] using h head.1
  | cons mhead mrest ih =>
      obtain ⟨hmhead, hmrest⟩ := List.pairwise_cons.1 hm
      cases ns with
      | nil => simpa [find?] using h mhead.1
      | cons nhead nrest =>
          obtain ⟨hnhead, hnrest⟩ := List.pairwise_cons.1 hn
          have hname : mhead.1 = nhead.1 := by
            refine String.le_antisymm (String.not_lt.1 fun hlt => ?_)
              (String.not_lt.1 fun hlt => ?_)
            · have hnone : find? nhead.1 (mhead :: mrest) = none :=
                find?_eq_none_of_lt fun entry hentry => by
                  rcases List.mem_cons.1 hentry with rfl | hentry
                  · exact hlt
                  · exact String.lt_trans hlt (hmhead entry hentry)
              rw [h nhead.1] at hnone
              simp [find?] at hnone
            · have hnone : find? mhead.1 (nhead :: nrest) = none :=
                find?_eq_none_of_lt fun entry hentry => by
                  rcases List.mem_cons.1 hentry with rfl | hentry
                  · exact hlt
                  · exact String.lt_trans hlt (hnhead entry hentry)
              rw [← h mhead.1] at hnone
              simp [find?] at hnone
          have hvalue : mhead.2 = nhead.2 := by
            have := h mhead.1
            simpa [find?, hname] using this
          have htail : mrest = nrest := by
            refine ih hmrest nrest hnrest fun name => ?_
            by_cases heq : name = mhead.1
            · rw [find?_eq_none_of_lt (heq ▸ hmhead),
                find?_eq_none_of_lt ((heq.trans hname) ▸ hnhead)]
            · have hne : name ≠ nhead.1 := fun hn' => heq (hn'.trans hname.symm)
              simpa [find?, heq, hne] using h name
          rw [Prod.ext hname hvalue, htail]

theorem map_insert (f : β → γ) (m : NameMap β) (name : String) (value : β) :
    (m.insert name value).map f = (m.map f).insert name (f value) := by
  apply ext_get?
  intro other
  rw [get?_map, get?_insert, get?_insert, get?_map]
  split <;> rfl

theorem insert_erase (m : NameMap β) (name : String) (value : β) :
    (m.erase name).insert name value = m.insert name value := by
  apply ext_get?
  intro other
  rw [get?_insert, get?_insert, get?_erase]
  split <;> rfl

example : (ofList [("b", 1), ("a", 2), ("b", 3)]).entries = [("a", 2), ("b", 3)] := by decide

end NameMap

end LayeredConfig
