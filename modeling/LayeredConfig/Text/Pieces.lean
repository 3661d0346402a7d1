/-
Cutting a text at every occurrence of one character, and the way back.  Scanners that
cut in other ways gather the text between what they look for back to front; `flush`
makes a part of it.
-/
namespace LayeredConfig.Text

/-- What stands between the occurrences of a character: one piece more than
there are occurrences, and a piece may be empty. -/
def pieces (mark : Char) (cs : List Char) : List (List Char) :=
  cs.foldr (fun c found =>
    if c = mark then [] :: found
    else
      match found with
      | [] => [[c]]
      | piece :: rest => (c :: piece) :: rest) [[]]

@[simp] theorem pieces_nil (mark : Char) : pieces mark [] = [[]] := rfl

theorem pieces_cons (mark c : Char) (cs : List Char) :
    pieces mark (c :: cs) =
      if c = mark then [] :: pieces mark cs
      else
        match pieces mark cs with
        | [] => [[c]]
        | piece :: rest => (c :: piece) :: rest := rfl

theorem pieces_eq_splitOn (mark : Char) (cs : List Char) :
    pieces mark cs = cs.splitOn mark := by
  induction cs with
  | nil => simp
  | cons c cs ih =>
      obtain ⟨head, rest, hhead⟩ := List.exists_cons_of_ne_nil (List.splitOn_ne_nil mark cs)
      simp [pieces_cons, List.splitOn_cons_eq_if_modifyHead, ih, hhead]

theorem pieces_ne_nil (mark : Char) (cs : List Char) : pieces mark cs ≠ [] := by
  rw [pieces_eq_splitOn]
  exact List.splitOn_ne_nil mark cs

/-- The pieces with the character put back between them are the text. -/
theorem intercalate_pieces (mark : Char) (cs : List Char) :
    [mark].intercalate (pieces mark cs) = cs := by
  rw [pieces_eq_splitOn]
  exact List.intercalate_splitOn mark

/-- Pieces without the character that is put between them are those of the text. -/
theorem pieces_intercalate {mark : Char} {found : List (List Char)}
    (h : ∀ piece ∈ found, mark ∉ piece) (hne : found ≠ []) :
    pieces mark ([mark].intercalate found) = found := by
  rw [pieces_eq_splitOn]
  exact List.splitOn_intercalate mark h hne

theorem not_mem_of_mem_pieces {mark : Char} {cs piece : List Char} (h : piece ∈ pieces mark cs) :
    mark ∉ piece := by
  induction cs generalizing piece with
  | nil => simp_all
  | cons c cs ih =>
      obtain ⟨head, rest, hpieces⟩ := List.exists_cons_of_ne_nil (pieces_ne_nil mark cs)
      by_cases hc : c = mark
      · simp only [pieces_cons, hc, ↓reduceIte, List.mem_cons] at h
        rcases h with rfl | h
        · simp
        · exact ih h
      · simp only [pieces_cons, hc, hpieces, ↓reduceIte, List.mem_cons] at h ih
        rcases h with rfl | h
        · simp [Ne.symm hc, ih (Or.inl rfl)]
        · exact ih (Or.inr h)

example : pieces ',' "a,,b".toList = ["a".toList, [], "b".toList] := by decide

section Flush

variable {α β : Type} {part : List Char → α} {pending : List Char}

/-- A run of text that was gathered back to front, as one part, if there is any. -/
def flush (part : List Char → α) (pending : List Char) : List α :=
  if pending.isEmpty then [] else [part pending.reverse]

theorem flush_of_ne_nil (h : pending ≠ []) : flush part pending = [part pending.reverse] := by
  rw [flush, if_neg (by simpa using h)]

theorem eq_of_mem_flush {x : α} (h : x ∈ flush part pending) : x = part pending.reverse := by
  rw [flush] at h
  split at h
  · cases h
  · exact List.mem_singleton.1 h

/-- Where nothing is made of an empty run, it makes no difference that there is no part
for it. -/
theorem flatMap_flush {f : α → List β} (h : f (part []) = []) (pending : List Char) :
    (flush part pending).flatMap f = f (part pending.reverse) := by
  by_cases hnil : pending = []
  · rw [hnil, List.reverse_nil, h]
    rfl
  · rw [flush_of_ne_nil hnil, List.flatMap_singleton]

end Flush

end LayeredConfig.Text
