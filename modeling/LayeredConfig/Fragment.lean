/-
The text of a stored value, cut into references and what stands between them.
A reference is written `${...}` around a text without braces and blanks.
-/
import LayeredConfig.Reference
import LayeredConfig.Text.Blank
import LayeredConfig.Text.Pieces

namespace LayeredConfig

/-- A part of a value: text that stands for itself, or what stands between the
braces of a reference. -/
inductive Fragment where
  | literal (text : List Char)
  | reference (inner : List Char)
deriving DecidableEq, Repr

namespace Fragment

/-- May a character stand between the braces of a reference? -/
def isInner (c : Char) : Bool :=
  c != '{' && c != '}' && !Text.isBlank c

def chars : Fragment → List Char
  | literal text => text
  | reference inner => '$' :: '{' :: (inner ++ ['}'])

/-- A reference at the start of a text, and the text after it. -/
def reference? : List Char → Option (List Char × List Char)
  | '$' :: '{' :: rest =>
      match rest.takeWhile isInner, rest.dropWhile isInner with
      | c :: cs, '}' :: after => some (c :: cs, after)
      | _, _ => none
  | _ => none

theorem reference?_append {cs inner after : List Char}
    (h : reference? cs = some (inner, after)) : cs = (reference inner).chars ++ after := by
  unfold reference? at h
  split at h
  · next rest =>
      have happend := List.takeWhile_append_dropWhile (p := isInner) (l := rest)
      split at h
      · next htake hdrop =>
          cases h
          rw [htake, hdrop] at happend
          simp [chars, ← happend]
      · cases h
  · cases h

theorem reference?_rest_shorter {cs inner after : List Char}
    (h : reference? cs = some (inner, after)) : after.length < cs.length := by
  rw [reference?_append h]
  simp only [chars, List.length_append, List.length_cons]
  omega

/-- Cut a text into fragments from the left, behind pending literal text that
stands back to front. -/
def splitAfter (pending : List Char) (cs : List Char) : List Fragment :=
  match _h : reference? cs with
  | some (inner, after) => Text.flush literal pending ++ .reference inner :: splitAfter [] after
  | none =>
      match cs with
      | [] => Text.flush literal pending
      | c :: rest => splitAfter (c :: pending) rest
termination_by cs.length
decreasing_by
  · exact reference?_rest_shorter _h
  · simp

def split (value : String) : List Fragment :=
  splitAfter [] value.toList

/-- Nothing of a text is lost when it is cut. -/
theorem splitAfter_chars (pending cs : List Char) :
    (splitAfter pending cs).flatMap chars = pending.reverse ++ cs := by
  have hflush : ∀ pending, (Text.flush literal pending).flatMap chars = pending.reverse :=
    Text.flatMap_flush rfl
  fun_induction splitAfter pending cs with
  | case1 pending cs inner after h ih =>
      rw [List.flatMap_append, List.flatMap_cons, ih, hflush, reference?_append h]
      simp
  | case2 pending h => simp [hflush]
  | case3 pending c rest h ih => simp [ih]

/-- The fragments of a value make up its text. -/
theorem split_chars (value : String) : (split value).flatMap chars = value.toList := by
  simpa [split] using splitAfter_chars [] value.toList

/-- What stands between the braces, if the fragment is a reference. -/
def inner? : Fragment → Option String
  | literal _ => none
  | reference inner => some (String.ofList inner)

/-- What stands between the braces of a value's references, each text once, in
order of first occurrence. -/
def inners (fragments : List Fragment) : List String :=
  (fragments.filterMap inner?).eraseDups

/-- A value's references that mean something, with the text in their braces. -/
def references (fragments : List Fragment) : List (String × Reference) :=
  (inners fragments).filterMap fun inner => (Reference.parse? inner).map (inner, ·)

/-- The text of a fragment once references have been replaced; what has no
replacement stays as it is written. -/
def fill (replacements : List (String × String)) : Fragment → List Char
  | literal text => text
  | reference inner =>
      match replacements.lookup (String.ofList inner) with
      | some value => value.toList
      | none => (reference inner).chars

end Fragment

end LayeredConfig
