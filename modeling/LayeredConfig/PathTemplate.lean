/-
Templates of search paths, such as `site/%{site}/pod/%{pod}`.  Each names one
layer of the configuration; a template whose variables the scope does not all
define names no layer for that request.
-/
import LayeredConfig.Scope
import LayeredConfig.Text.Blank
import LayeredConfig.Text.Pieces

namespace LayeredConfig.PathTemplate

/-- A part of a template: text that stands for itself, or the name of a
variable of the scope. -/
inductive Segment where
  | literal (text : List Char)
  | variable (name : List Char)
deriving DecidableEq, Repr

/-- What stands between the opening brace of a token and the nearest brace
that closes it, with the text after that brace.  Blanks end the search. -/
def untilBrace (name : List Char) : List Char → Option (List Char × List Char)
  | [] => none
  | c :: rest =>
      if c = '}' then some (name.reverse, rest)
      else if Text.isBlank c then none
      else untilBrace (c :: name) rest

/-- A token at the start of a text, as its name and the text after it.  The
name is not empty, so its first character may even be a closing brace. -/
def token? : List Char → Option (List Char × List Char)
  | '%' :: '{' :: first :: rest =>
      if Text.isBlank first then none else untilBrace [first] rest
  | _ => none

theorem untilBrace_rest_shorter {name cs found rest : List Char}
    (h : untilBrace name cs = some (found, rest)) : rest.length < cs.length := by
  induction cs generalizing name with
  | nil => simp [untilBrace] at h
  | cons c cs ih =>
      simp only [untilBrace] at h
      split at h
      · cases h
        exact Nat.lt_succ_self _
      · split at h
        · cases h
        · exact Nat.lt_succ_of_lt (ih h)

theorem token?_rest_shorter {cs name rest : List Char}
    (h : token? cs = some (name, rest)) : rest.length < cs.length := by
  unfold token? at h
  split at h
  · split at h
    · cases h
    · have := untilBrace_rest_shorter h
      simp only [List.length_cons]
      omega
  · cases h

/-- Cut a text into its segments from the left.  A `%` that starts no token is
literal, and the search goes on right behind it. -/
def segmentsAfter (pending : List Char) (cs : List Char) : List Segment :=
  match _h : token? cs with
  | some (name, rest) => Text.flush .literal pending ++ .variable name :: segmentsAfter [] rest
  | none =>
      match cs with
      | [] => Text.flush .literal pending
      | c :: rest => segmentsAfter (c :: pending) rest
termination_by cs.length
decreasing_by
  · exact token?_rest_shorter _h
  · simp

def segments (template : String) : List Segment :=
  segmentsAfter [] template.toList

/-- The text of one segment under a scope. -/
def Segment.fill (scope : Scope) : Segment → Option (List Char)
  | .literal text => some text
  | .variable name => (scope.get? (String.ofList name)).map String.toList

/-- The path that a template names under a scope, if the scope defines all its
variables.  A value is put in as it is, also if it looks like a token. -/
def resolve (template : String) (scope : Scope) : Option String :=
  ((segments template).mapM (Segment.fill scope)).map fun texts =>
    String.ofList texts.flatten

/-- The search path of a scope, lowest precedence first: the configured order,
which is highest first, turned round. -/
def resolvePaths (templates : List String) (scope : Scope) : List String :=
  (templates.filterMap fun template => resolve template scope).reverse

example : segments "%\x7b\x7dx\x7d/%\x7ba b\x7d" =
    [.variable "\x7dx".toList, .literal "/%\x7ba b\x7d".toList] := by decide +kernel

end LayeredConfig.PathTemplate
