/-
How a template is read.  From the left, a token is taken where the first one
may start, up to the nearest brace that leaves it a name, and reading goes on
behind that brace.  Every template is read in one way only.  Its path is the
template with the values of the scope in the places of these tokens, once and
for all, so a value that looks like a token is left alone.
-/
import LayeredConfig.PathTemplate
import Mathlib.Logic.ExistsUnique

namespace LayeredConfig.PathTemplate

/-- May a text be the name of a token?  Only blanks may not stand in it. -/
def IsName (name : List Char) : Prop :=
  name ≠ [] ∧ ∀ c ∈ name, Text.isBlank c = false

namespace Segment

/-- The text of a segment as it stands in a template. -/
def chars : Segment → List Char
  | .literal text => text
  | .variable name => '%' :: '{' :: (name ++ ['}'])

/-- The text that a scope has for a segment. -/
def shown (scope : Scope) : Segment → List Char
  | .literal text => text
  | .variable name => ((scope.get? (String.ofList name)).map String.toList).getD []

/-- A segment, cut into its characters if it is literal. -/
def characters : Segment → List Segment
  | .literal text => text.map fun c => .literal [c]
  | .variable name => [.variable name]

theorem flatMap_characters_shown (scope : Scope) (segment : Segment) :
    segment.characters.flatMap (shown scope) = segment.shown scope := by
  rcases segment with text | name
  · simp [characters, shown, List.flatMap_map]
  · simp [characters]

theorem variable_mem_characters_iff {name : List Char} {segment : Segment} :
    .variable name ∈ segment.characters ↔ .variable name = segment := by
  rcases segment with text | other <;> simp [characters]

end Segment

/-- A text starts with what might be the token of a name. -/
def Opens (text name : List Char) : Prop :=
  IsName name ∧ ∃ rest, text = (Segment.variable name).chars ++ rest

/-- A text starts with the token of a name, and goes on with the rest.  Of the
braces behind the first character of the name the nearest one closes it. -/
structure IsToken (text name rest : List Char) : Prop where
  isName : IsName name
  nearest : '}' ∉ name.tail
  text_eq : text = (Segment.variable name).chars ++ rest

/-- The reading of a text from the left: a token is taken where one may start,
and any other character stands for itself. -/
inductive Reads : List Char → List Segment → Prop
  | nil : Reads [] []
  | token {text name rest : List Char} {read : List Segment} :
      IsToken text name rest → Reads rest read → Reads text (.variable name :: read)
  | char {c : Char} {rest : List Char} {read : List Segment} :
      (∀ name, ¬ Opens (c :: rest) name) → Reads rest read →
        Reads (c :: rest) (.literal [c] :: read)

section Token

variable {text seen found more name rest cs : List Char}

/-- The search for the closing brace goes past characters that are no blanks
and no such braces. -/
theorem untilBrace_append (hbrace : '}' ∉ more) (hmore : ∀ c ∈ more, Text.isBlank c = false) :
    untilBrace seen (more ++ '}' :: rest) = some (seen.reverse ++ more, rest) := by
  induction more generalizing seen with
  | nil => simp [untilBrace]
  | cons c more ih =>
      rw [List.mem_cons, not_or] at hbrace
      obtain ⟨hc, htail⟩ := List.forall_mem_cons.1 hmore
      rw [List.cons_append, untilBrace, if_neg (Ne.symm hbrace.1), hc,
        if_neg Bool.false_ne_true, ih hbrace.2 htail]
      simp

theorem append_of_untilBrace (h : untilBrace seen cs = some (found, rest)) :
    ∃ more, found = seen.reverse ++ more ∧ cs = more ++ '}' :: rest ∧ '}' ∉ more ∧
      ∀ c ∈ more, Text.isBlank c = false := by
  fun_induction untilBrace seen cs with
  | case1 => contradiction
  | case2 seen after =>
      obtain ⟨rfl, rfl⟩ := Prod.mk.inj (Option.some.inj h)
      exact ⟨[], by simp, by simp, by simp, by simp⟩
  | case3 => contradiction
  | case4 seen c after hclose hblank ih =>
      obtain ⟨more, rfl, rfl, hbrace, hmore⟩ := ih h
      refine ⟨c :: more, by simp, rfl, ?_, ?_⟩
      · exact List.not_mem_cons_of_ne_of_not_mem (Ne.symm hclose) hbrace
      · exact List.forall_mem_cons.2 ⟨by simpa using hblank, hmore⟩

/-- It comes to an end wherever a brace stands behind characters that are no
blanks. -/
theorem exists_untilBrace (hmore : ∀ c ∈ more, Text.isBlank c = false) (seen rest : List Char) :
    ∃ result, untilBrace seen (more ++ '}' :: rest) = some result := by
  induction more generalizing seen with
  | nil => exact ⟨(seen.reverse, rest), by simp [untilBrace]⟩
  | cons c more ih =>
      obtain ⟨hc, htail⟩ := List.forall_mem_cons.1 hmore
      rw [List.cons_append, untilBrace]
      by_cases hclose : c = '}'
      · exact ⟨_, if_pos hclose⟩
      · rw [if_neg hclose, hc, if_neg Bool.false_ne_true]
        exact ih htail (c :: seen)

theorem token?_eq_some_iff : token? text = some (name, rest) ↔ IsToken text name rest := by
  constructor
  · intro h
    unfold token? at h
    split at h
    · next first cs =>
        split at h
        · contradiction
        · next hfirst =>
            obtain ⟨more, rfl, rfl, hbrace, hmore⟩ := append_of_untilBrace h
            refine ⟨⟨by simp, ?_⟩, by simpa using hbrace, by simp [Segment.chars]⟩
            exact List.forall_mem_cons.2 ⟨by simpa using hfirst, hmore⟩
    · contradiction
  · rintro ⟨⟨hne, hblank⟩, hnearest, rfl⟩
    obtain ⟨first, more, rfl⟩ := List.exists_cons_of_ne_nil hne
    obtain ⟨hfirst, hmore⟩ := List.forall_mem_cons.1 hblank
    have hsearch : untilBrace [first] (more ++ '}' :: rest) = some (first :: more, rest) :=
      untilBrace_append hnearest hmore
    simp [Segment.chars, token?, hfirst, hsearch]

theorem token?_eq_none_iff : token? text = none ↔ ∀ name, ¬ Opens text name := by
  constructor
  · rintro hnone name ⟨⟨hne, hblank⟩, rest, rfl⟩
    obtain ⟨first, more, rfl⟩ := List.exists_cons_of_ne_nil hne
    obtain ⟨hfirst, hmore⟩ := List.forall_mem_cons.1 hblank
    obtain ⟨result, hsearch⟩ := exists_untilBrace hmore [first] rest
    simp [Segment.chars, token?, hfirst, hsearch] at hnone
  · intro hopens
    rcases htoken : token? text with _ | ⟨name, rest⟩
    · rfl
    · have hread := token?_eq_some_iff.1 htoken
      exact absurd ⟨hread.isName, rest, hread.text_eq⟩ (hopens name)

end Token

section Reading

variable {text name rest pending : List Char} {c : Char} {read : List Segment}

theorem segmentsAfter_nil (pending : List Char) :
    segmentsAfter pending [] = Text.flush .literal pending := by
  rw [segmentsAfter]
  rfl

theorem segmentsAfter_of_token (h : token? text = some (name, rest)) :
    segmentsAfter pending text =
      Text.flush .literal pending ++ .variable name :: segmentsAfter [] rest := by
  rw [segmentsAfter]
  split
  · next hsome =>
      obtain ⟨rfl, rfl⟩ := Prod.mk.inj (Option.some.inj (h.symm.trans hsome))
      rfl
  · next hnone =>
      rw [h] at hnone
      contradiction

theorem segmentsAfter_cons_of_none (h : token? (c :: rest) = none) :
    segmentsAfter pending (c :: rest) = segmentsAfter (c :: pending) rest := by
  rw [segmentsAfter]
  split
  · next hsome =>
      rw [h] at hsome
      contradiction
  · rfl

theorem flatMap_flush_characters (pending : List Char) :
    (Text.flush .literal pending).flatMap Segment.characters =
      pending.reverse.map fun c => .literal [c] :=
  Text.flatMap_flush rfl pending

/-- A reading is what a text is cut into, literal text character by
character. -/
theorem Reads.segmentsAfter_eq (h : Reads text read) (pending : List Char) :
    (segmentsAfter pending text).flatMap Segment.characters =
      (pending.reverse.map fun c => .literal [c]) ++ read := by
  induction h generalizing pending with
  | nil => simp [segmentsAfter_nil, flatMap_flush_characters]
  | token htoken _ ih =>
      rw [segmentsAfter_of_token (token?_eq_some_iff.2 htoken), List.flatMap_append,
        flatMap_flush_characters, List.flatMap_cons, ih]
      simp [Segment.characters]
  | char hopens _ ih =>
      rw [segmentsAfter_cons_of_none (token?_eq_none_iff.2 hopens), ih]
      simp

theorem exists_reads (text : List Char) : ∃ read, Reads text read := by
  suffices ∀ pending : List Char, ∃ read, Reads text read from this []
  intro pending
  induction pending, text using segmentsAfter.induct with
  | case1 pending text name rest htoken ih =>
      obtain ⟨read, hread⟩ := ih
      exact ⟨_, .token (token?_eq_some_iff.1 htoken) hread⟩
  | case2 pending _ => exact ⟨[], .nil⟩
  | case3 pending c rest hnone ih =>
      obtain ⟨read, hread⟩ := ih
      exact ⟨_, .char (token?_eq_none_iff.1 hnone) hread⟩

theorem reads_iff :
    Reads text read ↔ read = (segmentsAfter [] text).flatMap Segment.characters := by
  constructor
  · intro h
    simpa using (h.segmentsAfter_eq []).symm
  · rintro rfl
    obtain ⟨read, hread⟩ := exists_reads text
    rw [hread.segmentsAfter_eq]
    exact hread

theorem Reads.variable_mem_iff (h : Reads text read) :
    .variable name ∈ read ↔ .variable name ∈ segmentsAfter [] text := by
  simp [reads_iff.1 h, List.mem_flatMap, Segment.variable_mem_characters_iff]

theorem Reads.flatMap_shown (h : Reads text read) (scope : Scope) :
    read.flatMap (Segment.shown scope) =
      (segmentsAfter [] text).flatMap (Segment.shown scope) := by
  simp only [reads_iff.1 h, List.flatMap_assoc, Segment.flatMap_characters_shown]

/-- Nothing of a text is lost when it is read. -/
theorem Reads.flatMap_chars (h : Reads text read) : read.flatMap Segment.chars = text := by
  induction h with
  | nil => rfl
  | token htoken _ ih => rw [List.flatMap_cons, ih, htoken.text_eq]
  | char _ _ ih => rw [List.flatMap_cons, ih, Segment.chars, List.singleton_append]

end Reading

section Resolving

variable {scope : Scope} {segments : List Segment} {texts : List (List Char)}

theorem fill_eq_some_iff {segment : Segment} {text : List Char} :
    segment.fill scope = some text ↔
      (∀ name, .variable name = segment → scope.contains (String.ofList name) = true) ∧
        text = segment.shown scope := by
  rcases segment with literal | name
  · simp [Segment.fill, Segment.shown, eq_comm (a := text)]
  · have hcontains : scope.contains (String.ofList name) =
        (scope.get? (String.ofList name)).isSome := rfl
    rcases hvalue : scope.get? (String.ofList name) with _ | value
    · simp [Segment.fill, hcontains, hvalue]
    · simp [Segment.fill, Segment.shown, hcontains, hvalue, eq_comm (a := text)]

theorem mapM_fill_eq_some_iff :
    segments.mapM (Segment.fill scope) = some texts ↔
      (∀ name, .variable name ∈ segments → scope.contains (String.ofList name) = true) ∧
        texts = segments.map (Segment.shown scope) := by
  induction segments generalizing texts with
  | nil =>
      rw [List.mapM_nil]
      constructor
      · intro h
        exact ⟨by simp, (Option.some.inj h).symm⟩
      · rintro ⟨_, rfl⟩
        rfl
  | cons segment rest ih =>
      rw [List.mapM_cons]
      simp only [Option.bind_eq_bind, Option.bind_eq_some_iff, fill_eq_some_iff, ih,
        Option.pure_def, Option.some.injEq, List.mem_cons, or_imp, forall_and, List.map_cons]
      constructor
      · rintro ⟨_, ⟨hfirst, rfl⟩, _, ⟨hrest, rfl⟩, rfl⟩
        exact ⟨⟨hfirst, hrest⟩, rfl⟩
      · rintro ⟨⟨hfirst, hrest⟩, rfl⟩
        exact ⟨_, ⟨hfirst, rfl⟩, _, ⟨hrest, rfl⟩, rfl⟩

/-- A template has a path just if all its variables are defined, and then it is
their values with the literal text between them. -/
theorem resolve_eq_some_iff {template path : String} :
    resolve template scope = some path ↔
      (∀ name, .variable name ∈ PathTemplate.segments template →
        scope.contains (String.ofList name) = true) ∧
      path.toList = (PathTemplate.segments template).flatMap (Segment.shown scope) := by
  rw [resolve, Option.map_eq_some_iff]
  simp only [mapM_fill_eq_some_iff]
  constructor
  · rintro ⟨_, ⟨hdefined, rfl⟩, rfl⟩
    exact ⟨hdefined, by rw [String.toList_ofList, List.flatMap_def]⟩
  · rintro ⟨hdefined, hpath⟩
    refine ⟨_, ⟨hdefined, rfl⟩, ?_⟩
    rw [← List.flatMap_def, ← hpath, String.ofList_toList]

/-- The path of a template is its reading with every token replaced by the value
of its variable, which is not read again.  There is one just if all of these are
defined; a template without tokens is its own path. -/
theorem resolve_replaces_tokens (template : String) (scope : Scope) :
    (∃! read, Reads template.toList read) ∧
    ∀ read, Reads template.toList read →
      read.flatMap Segment.chars = template.toList ∧
      (∀ path, resolve template scope = some path ↔
        (∀ name, .variable name ∈ read → scope.contains (String.ofList name) = true) ∧
          path.toList = read.flatMap (Segment.shown scope)) ∧
      ((∀ name, .variable name ∉ read) → resolve template scope = some template) := by
  refine ⟨⟨_, reads_iff.2 rfl, fun other hother => reads_iff.1 hother⟩, ?_⟩
  intro read hread
  have hpath : ∀ path, resolve template scope = some path ↔
      (∀ name, .variable name ∈ read → scope.contains (String.ofList name) = true) ∧
        path.toList = read.flatMap (Segment.shown scope) := by
    intro path
    rw [resolve_eq_some_iff, hread.flatMap_shown, PathTemplate.segments]
    simp only [hread.variable_mem_iff]
  refine ⟨hread.flatMap_chars, hpath, fun hnone => ?_⟩
  refine (hpath template).2 ⟨fun name hname => absurd hname (hnone name), ?_⟩
  -- what is literal is shown as it is written
  have hliteral : ∀ segment ∈ read, segment.chars = segment.shown scope := by
    intro segment hsegment
    rcases segment with text | name
    · rfl
    · exact absurd hsegment (hnone name)
  calc template.toList = read.flatMap Segment.chars := hread.flatMap_chars.symm
    _ = read.flatMap (Segment.shown scope) := by
      rw [List.flatMap_def, List.flatMap_def, List.map_congr_left hliteral]

/-- A site whose name looks like a token, and a variable with an odd name. -/
def oddScope : Scope :=
  .ofPairs [("site", "%\x7bpod\x7d"), ("pod", "p1"), ("\x7dx", "odd")]

/-- The name of a token starts behind its first brace and may be odd, and a value
that looks like a token is not replaced. -/
theorem resolve_replaces_tokens_odd :
    let template := "%\x7bsite\x7d/%\x7b a%\x7b\x7dx\x7d\x7d"
    let read := [.variable "site".toList, .literal ['/'], .literal ['%'], .literal ['{'],
      .literal [' '], .literal ['a'], .variable "\x7dx".toList, .literal ['}']]
    Reads template.toList read ∧
      resolve template oddScope = some "%\x7bpod\x7d/%\x7b aodd\x7d" := by
  intro template read
  have hread : Reads template.toList read := reads_iff.2 (by decide +kernel)
  refine ⟨hread, ?_⟩
  have hpath := ((resolve_replaces_tokens template oddScope).2 read hread).2.1
  refine (hpath _).2 ⟨?_, by decide +kernel⟩
  have hdefined : ∀ name ∈ ["site".toList, "\x7dx".toList],
      oddScope.contains (String.ofList name) = true := by decide +kernel
  intro name hname
  apply hdefined
  simpa [read] using hname

end Resolving

end LayeredConfig.PathTemplate
