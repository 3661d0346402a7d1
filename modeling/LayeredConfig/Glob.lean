/-
Key filters: patterns with `?`, `*`, `**` and character classes, matched
against a whole text.  A slash is a character like any other, except that
`**` stands for whole components.
-/
namespace LayeredConfig

inductive Glob.Member where
  | single (c : Char)
  | range (low high : Char)
deriving DecidableEq, Repr

inductive Glob.Part where
  | literal (c : Char)
  | anyChar
  | within (members : List Glob.Member)
  | except (members : List Glob.Member)
  | anySequence
  | anyComponents
deriving DecidableEq, Repr

/-- A pattern that was read without an error. -/
structure Glob where
  parts : List Glob.Part
deriving DecidableEq, Repr

namespace Glob

/-- The members that stand between the brackets of a class. -/
def members : List Char → List Member
  | low :: '-' :: high :: rest => .range low high :: members rest
  | c :: rest => .single c :: members rest
  | [] => []

/-- A text cut at the first closing bracket behind its first character, which
may itself be one. -/
def classEnd? : List Char → Option (List Char × List Char)
  | [] => none
  | first :: rest =>
      match rest.dropWhile (· != ']') with
      | _ :: after => some (first :: rest.takeWhile (· != ']'), after)
      | [] => none

/-- A class, after its opening bracket, and what follows it. -/
def class? : List Char → Option (Part × List Char)
  | '!' :: rest => (classEnd? rest).map fun (inside, after) => (.except (members inside), after)
  | cs => (classEnd? cs).map fun (inside, after) => (.within (members inside), after)

/-- What two stars stand for, given what precedes them (nearest first) and
what follows: they have to be a component of their own. -/
def components? (before after : List Char) : Option (List Char) :=
  match before with
  | [] => ends after
  | '/' :: _ => ends after
  | _ => none
where
  /-- The rest of the pattern, without the slash that ends the component. -/
  ends : List Char → Option (List Char)
    | [] => some []
    | '/' :: rest => some rest
    | _ => none

theorem classEnd?_rest_shorter {cs inside after : List Char}
    (h : classEnd? cs = some (inside, after)) : after.length < cs.length := by
  unfold classEnd? at h
  split at h
  · cases h
  · next first rest =>
      have := (List.dropWhile_suffix (· != ']') : rest.dropWhile _ <:+ rest).length_le
      split at h
      · next heq =>
          cases h
          rw [heq] at this
          simp only [List.length_cons] at this ⊢
          omega
      · cases h

theorem class?_rest_shorter {cs after : List Char} {part : Part}
    (h : class? cs = some (part, after)) : after.length < cs.length := by
  unfold class? at h
  split at h
  · obtain ⟨⟨inside, rest⟩, hend, hpair⟩ := Option.map_eq_some_iff.1 h
    cases hpair
    exact Nat.lt_succ_of_lt (classEnd?_rest_shorter hend)
  · obtain ⟨⟨inside, rest⟩, hend, hpair⟩ := Option.map_eq_some_iff.1 h
    cases hpair
    exact classEnd?_rest_shorter hend

theorem components?_rest_le {before after rest : List Char}
    (h : components? before after = some rest) : rest.length ≤ after.length := by
  have hends : ∀ {cs}, components?.ends cs = some rest → rest.length ≤ cs.length := by
    intro cs hcs
    unfold components?.ends at hcs
    split at hcs <;> cases hcs <;> simp
  unfold components? at h
  split at h
  · exact hends h
  · exact hends h
  · cases h

/-- Add the part for two stars; behind another one it says nothing new. -/
def addComponents (parts : List Part) : List Part :=
  match parts with
  | .anyComponents :: _ :: _ => parts
  | _ => .anyComponents :: parts

/-- Read the rest of a pattern.  Both what was read and the parts made of it
stand back to front. -/
def partsAfter (before : List Char) (parts : List Part) (cs : List Char) :
    Option (List Part) :=
  match cs with
  | [] => some parts.reverse
  | '*' :: '*' :: '*' :: _ => none
  | '*' :: '*' :: after =>
      match _h : components? before after with
      | some rest => partsAfter ('/' :: before) (addComponents parts) rest
      | none => none
  | '[' :: after =>
      match _h : class? after with
      | some (part, rest) => partsAfter (']' :: before) (part :: parts) rest
      | none => none
  | '*' :: after => partsAfter ('*' :: before) (.anySequence :: parts) after
  | '?' :: after => partsAfter ('?' :: before) (.anyChar :: parts) after
  | c :: after => partsAfter (c :: before) (.literal c :: parts) after
termination_by cs.length
decreasing_by
  · have := components?_rest_le _h
    simp only [List.length_cons]
    omega
  · have := class?_rest_shorter _h
    simp only [List.length_cons]
    omega
  · simp
  · simp
  · simp

/-- Read a pattern; nothing if it is malformed. -/
def parse? (pattern : String) : Option Glob :=
  (partsAfter [] [] pattern.toList).map Glob.mk

/-- Does a member of a class cover a character? -/
def Member.covers (c : Char) : Member → Bool
  | .single d => c == d
  | .range low high => low ≤ c && c ≤ high

/-- How a match came out.  When the text ran out, a later start cannot help. -/
inductive Outcome where
  | matched
  | mismatched
  | ranOut
deriving DecidableEq, Repr

/-- Does a part that stands for one character accept this one? -/
def Part.accepts (c : Char) : Part → Bool
  | .literal d => c == d
  | .anyChar => true
  | .within members => members.any (Member.covers c)
  | .except members => !members.any (Member.covers c)
  | _ => false

/-- Try the rest of a pattern here and at every later place that `admits`
lets in; at the end of the text it is tried in any case. -/
def firstMatch (rest : List Char → Outcome) (admits : Char → Bool) : List Char → Outcome
  | [] => rest []
  | c :: cs =>
      if admits c then
        match rest cs with
        | .mismatched => firstMatch rest admits cs
        | outcome => outcome
      else firstMatch rest admits cs

/-- Match the parts of a pattern against a whole text. -/
def matchParts : List Part → List Char → Outcome
  | [], [] => .matched
  | [], _ :: _ => .mismatched
  | .anySequence :: parts, cs =>
      match matchParts parts cs with
      | .mismatched => firstMatch (matchParts parts) (fun _ => true) cs
      | outcome => outcome
  | .anyComponents :: parts, cs =>
      match matchParts parts cs with
      | .mismatched => firstMatch (matchParts parts) (· == '/') cs
      | outcome => outcome
  | _ :: _, [] => .ranOut
  | part :: parts, c :: cs => if part.accepts c then matchParts parts cs else .mismatched

/-- Does the pattern match the whole text? -/
def covers (glob : Glob) (text : String) : Bool :=
  matchParts glob.parts text.toList == .matched

example : (parse? "a**").isNone = true := by decide +kernel
example : (parse? "cfg:*:[a-c]?").map (·.covers "cfg:x/y:b1") = some true := by decide +kernel
example : (parse? "**").map (·.covers "a/b") = some true := by decide +kernel

end Glob

end LayeredConfig
