/-
The events of a YAML document: scalars, aliases, and the starts and ends of
collections.  They are read off the tokens by a machine with a stack of what
is still to come.
-/
import LayeredConfig.Yaml.Token

namespace LayeredConfig.Yaml

/-- What a node carries besides its content. -/
structure Properties where
  anchor : Option (List Char) := none
  tag : Option (List Char) := none
deriving DecidableEq, Repr

namespace Properties

def isSome (p : Properties) : Bool := p.anchor.isSome || p.tag.isSome

/-- The properties of a scalar: an exclamation mark alone says nothing. -/
def forScalar (p : Properties) : Properties :=
  if p.tag = some ['!'] then { p with tag := none } else p

end Properties

/-- An event.  Of a scalar it counts whether it was written plain. -/
inductive Event where
  | scalar (properties : Properties) (text : List Char) (plain : Bool)
  | alias (name : List Char)
  | sequenceStart (properties : Properties)
  | sequenceEnd
  | mappingStart (properties : Properties)
  | mappingEnd
deriving DecidableEq, Repr

namespace Event

/-- The scalar that stands where a node is left out. -/
def omitted : Event := scalar {} [] true

end Event

/-- What is still to come in a document.  A pair is a mapping of one entry
that stands in a flow sequence. -/
inductive Expected where
  | node (block indentless : Bool)
  | blockSequenceEntry
  | indentlessEntry
  | blockMappingKey
  | blockMappingValue
  | flowSequenceFirst
  | flowSequenceEntry
  | pairKey
  | pairValue
  | pairEnd
  | flowMappingFirst
  | flowMappingKey
  | flowMappingValue
  | flowMappingNoValue
deriving DecidableEq, Repr

namespace Expected

/-- How much work an expectation can make before it takes a token. -/
def weight : Expected → Nat
  | node .. => 2
  | blockSequenceEntry => 1
  | indentlessEntry => 1
  | blockMappingKey => 1
  | blockMappingValue => 2
  | flowSequenceFirst => 4
  | flowSequenceEntry => 1
  | pairKey => 6
  | pairValue => 3
  | pairEnd => 2
  | flowMappingFirst => 5
  | flowMappingKey => 1
  | flowMappingValue => 2
  | flowMappingNoValue => 2

end Expected

/-- The state of the machine between two events; what comes next is first. -/
structure Grammar where
  expected : List Expected
  tokens : List Token

namespace Grammar

/-- Bounds the events that are still to come. -/
def weight (g : Grammar) : Nat :=
  10 * g.tokens.length + g.expected.foldr (fun e below => e.weight + below) 0

/-- What one step gives: events, and the state behind them. -/
abbrev Stepped := List Event × Grammar

/-- The meaning of a tag: that of its handle in front of the rest. -/
def resolveTag? (meanings : List (List Char × List Char)) (handle suffix : List Char) :
    Option (List Char) :=
  if handle.isEmpty then some suffix else (meanings.lookup handle).map (· ++ suffix)

/-- The properties of a node, in either order, and the tokens behind them. -/
def properties? (meanings : List (List Char × List Char)) :
    List Token → Option (Properties × List Token)
  | .anchor name :: .tag handle suffix :: rest =>
      (resolveTag? meanings handle suffix).map fun tag => (⟨some name, some tag⟩, rest)
  | .anchor name :: rest => some (⟨some name, none⟩, rest)
  | .tag handle suffix :: .anchor name :: rest =>
      (resolveTag? meanings handle suffix).map fun tag => (⟨some name, some tag⟩, rest)
  | .tag handle suffix :: rest =>
      (resolveTag? meanings handle suffix).map fun tag => (⟨none, some tag⟩, rest)
  | tokens => some ({}, tokens)

/-- The content of a node with these properties. -/
def content (block indentless : Bool) (p : Properties) (below : List Expected) :
    List Token → Option Stepped
  | .blockEntry :: rest =>
      if indentless then
        some ([.sequenceStart p], ⟨.indentlessEntry :: below, .blockEntry :: rest⟩)
      else omitted p below (.blockEntry :: rest)
  | .scalar text plain :: rest => some ([.scalar p.forScalar text plain], ⟨below, rest⟩)
  | .flowSequenceStart :: rest => some ([.sequenceStart p], ⟨.flowSequenceFirst :: below, rest⟩)
  | .flowMappingStart :: rest => some ([.mappingStart p], ⟨.flowMappingFirst :: below, rest⟩)
  | .blockSequenceStart :: rest =>
      if block then some ([.sequenceStart p], ⟨.blockSequenceEntry :: below, rest⟩)
      else omitted p below (.blockSequenceStart :: rest)
  | .blockMappingStart :: rest =>
      if block then some ([.mappingStart p], ⟨.blockMappingKey :: below, rest⟩)
      else omitted p below (.blockMappingStart :: rest)
  | tokens => omitted p below tokens
where
  /-- A node may leave its content out if it carries something. -/
  omitted (p : Properties) (below : List Expected) (tokens : List Token) : Option Stepped :=
    if p.isSome then some ([.scalar p [] true], ⟨below, tokens⟩) else none

/-- A node: an alias, or content behind properties. -/
def node (meanings : List (List Char × List Char)) (block indentless : Bool)
    (below : List Expected) : List Token → Option Stepped
  | .alias name :: rest => some ([.alias name], ⟨below, rest⟩)
  | tokens =>
      match properties? meanings tokens with
      | some (p, rest) => content block indentless p below rest
      | none => none

/-- Does one of these tokens end what could stand here? -/
def endsWith (ends : List Token) : List Token → Bool
  | token :: _ => token ∈ ends
  | [] => false

/-- A node, unless one of these tokens says that it is left out. -/
def nodeOr (block indentless : Bool) (ends : List Token) (below : List Expected)
    (tokens : List Token) : Option Stepped :=
  if endsWith ends tokens then some ([.omitted], ⟨below, tokens⟩)
  else some ([], ⟨.node block indentless :: below, tokens⟩)

/-- An entry of a flow sequence: a pair or a node, or the end. -/
def flowSequenceItem (below : List Expected) : List Token → Option Stepped
  | .flowSequenceEnd :: rest => some ([.sequenceEnd], ⟨below, rest⟩)
  | .key :: rest => some ([.mappingStart {}], ⟨.pairKey :: .flowSequenceEntry :: below, rest⟩)
  | tokens => some ([], ⟨.node false false :: .flowSequenceEntry :: below, tokens⟩)

/-- An entry of a flow mapping, or the end.  A node that is no key of a value
has the value left out. -/
def flowMappingItem (below : List Expected) : List Token → Option Stepped
  | .flowMappingEnd :: rest => some ([.mappingEnd], ⟨below, rest⟩)
  | .key :: rest =>
      nodeOr false false [.value, .flowEntry, .flowMappingEnd] (.flowMappingValue :: below) rest
  | tokens => some ([], ⟨.node false false :: .flowMappingNoValue :: below, tokens⟩)

def step (meanings : List (List Char × List Char)) (below : List Expected) (tokens : List Token) :
    Expected → Option Stepped
  | .node block indentless => node meanings block indentless below tokens
  | .blockSequenceEntry =>
      match tokens with
      | .blockEntry :: rest =>
          nodeOr true false [.blockEntry, .blockEnd] (.blockSequenceEntry :: below) rest
      | .blockEnd :: rest => some ([.sequenceEnd], ⟨below, rest⟩)
      | _ => none
  | .indentlessEntry =>
      match tokens with
      | .blockEntry :: rest =>
          nodeOr true false [.blockEntry, .key, .value, .blockEnd] (.indentlessEntry :: below) rest
      | _ => some ([.sequenceEnd], ⟨below, tokens⟩)
  | .blockMappingKey =>
      match tokens with
      | .key :: rest =>
          nodeOr true true [.key, .value, .blockEnd] (.blockMappingValue :: below) rest
      | .blockEnd :: rest => some ([.mappingEnd], ⟨below, rest⟩)
      | _ => none
  | .blockMappingValue =>
      match tokens with
      | .value :: rest =>
          nodeOr true true [.key, .value, .blockEnd] (.blockMappingKey :: below) rest
      | _ => some ([.omitted], ⟨.blockMappingKey :: below, tokens⟩)
  | .flowSequenceFirst => flowSequenceItem below tokens
  | .flowSequenceEntry =>
      match tokens with
      | .flowEntry :: rest => flowSequenceItem below rest
      | .flowSequenceEnd :: rest => some ([.sequenceEnd], ⟨below, rest⟩)
      | _ => none
  | .pairKey =>
      if endsWith [.value, .flowEntry, .flowSequenceEnd] tokens then
        some ([.omitted], ⟨.pairValue :: below, tokens.tail⟩)
      else some ([], ⟨.node false false :: .pairValue :: below, tokens⟩)
  | .pairValue =>
      match tokens with
      | .value :: rest =>
          nodeOr false false [.flowEntry, .flowSequenceEnd] (.pairEnd :: below) rest
      | _ => some ([.omitted], ⟨.pairEnd :: below, tokens⟩)
  | .pairEnd => some ([.mappingEnd], ⟨below, tokens⟩)
  | .flowMappingFirst => flowMappingItem below tokens
  | .flowMappingKey =>
      match tokens with
      | .flowEntry :: rest => flowMappingItem below rest
      | .flowMappingEnd :: rest => some ([.mappingEnd], ⟨below, rest⟩)
      | _ => none
  | .flowMappingValue =>
      match tokens with
      | .value :: rest =>
          nodeOr false false [.flowEntry, .flowMappingEnd] (.flowMappingKey :: below) rest
      | _ => some ([.omitted], ⟨.flowMappingKey :: below, tokens⟩)
  | .flowMappingNoValue => some ([.omitted], ⟨.flowMappingKey :: below, tokens⟩)

theorem weight_cons (e : Expected) (below : List Expected) (tokens : List Token) :
    weight ⟨e :: below, tokens⟩ = e.weight + weight ⟨below, tokens⟩ := by
  simp only [weight, List.foldr_cons]
  omega

theorem weight_cons_token (below : List Expected) (token : Token) (tokens : List Token) :
    weight ⟨below, token :: tokens⟩ = 10 + weight ⟨below, tokens⟩ := by
  simp only [weight, List.length_cons]
  omega

theorem weight_tail_le (below : List Expected) (tokens : List Token) :
    weight ⟨below, tokens.tail⟩ ≤ weight ⟨below, tokens⟩ := by
  simp only [weight, List.length_tail]
  omega

theorem properties?_weight_le {meanings : List (List Char × List Char)} {tokens rest : List Token}
    {p : Properties} (below : List Expected) (h : properties? meanings tokens = some (p, rest)) :
    weight ⟨below, rest⟩ + (if p.isSome then 10 else 0) ≤ weight ⟨below, tokens⟩ := by
  unfold properties? at h
  split at h
  · obtain ⟨_, _, hpair⟩ := Option.map_eq_some_iff.1 h
    cases hpair
    simp only [weight_cons_token]
    split <;> omega
  · cases h
    simp only [weight_cons_token]
    split <;> omega
  · obtain ⟨_, _, hpair⟩ := Option.map_eq_some_iff.1 h
    cases hpair
    simp only [weight_cons_token]
    split <;> omega
  · obtain ⟨_, _, hpair⟩ := Option.map_eq_some_iff.1 h
    cases hpair
    simp only [weight_cons_token]
    split <;> omega
  · cases h
    simp [Properties.isSome]

theorem omitted_weight_lt {p : Properties} {below : List Expected} {tokens : List Token}
    {r : Stepped} (h : content.omitted p below tokens = some r) :
    r.2.weight < 2 + (weight ⟨below, tokens⟩ + (if p.isSome then 10 else 0)) := by
  unfold content.omitted at h
  split at h
  · cases h
    change weight ⟨below, tokens⟩ < _
    omega
  · cases h

theorem content_weight_lt {block indentless : Bool} {p : Properties} {below : List Expected}
    {tokens : List Token} {r : Stepped} (h : content block indentless p below tokens = some r) :
    r.2.weight < 2 + (weight ⟨below, tokens⟩ + (if p.isSome then 10 else 0)) := by
  unfold content at h
  split at h
  · split at h
    · cases h
      simp only [weight_cons, Expected.weight]
      omega
    · exact omitted_weight_lt h
  · cases h
    simp only [weight_cons_token]
    omega
  · cases h
    simp only [weight_cons_token, weight_cons, Expected.weight]
    omega
  · cases h
    simp only [weight_cons_token, weight_cons, Expected.weight]
    omega
  · split at h
    · cases h
      simp only [weight_cons_token, weight_cons, Expected.weight]
      omega
    · exact omitted_weight_lt h
  · split at h
    · cases h
      simp only [weight_cons_token, weight_cons, Expected.weight]
      omega
    · exact omitted_weight_lt h
  · exact omitted_weight_lt h

theorem node_weight_lt {meanings : List (List Char × List Char)} {block indentless : Bool}
    {below : List Expected} {tokens : List Token} {r : Stepped}
    (h : node meanings block indentless below tokens = some r) :
    r.2.weight < 2 + weight ⟨below, tokens⟩ := by
  unfold node at h
  split at h
  · cases h
    simp only [weight_cons_token]
    omega
  · split at h
    · next hproperties =>
        have := properties?_weight_le below hproperties
        have := content_weight_lt h
        omega
    · cases h

theorem nodeOr_weight_le {block indentless : Bool} {ends : List Token} {below : List Expected}
    {tokens : List Token} {r : Stepped} (h : nodeOr block indentless ends below tokens = some r) :
    r.2.weight ≤ 2 + weight ⟨below, tokens⟩ := by
  unfold nodeOr at h
  split at h <;> cases h <;> simp only [weight_cons, Expected.weight] <;> omega

theorem flowSequenceItem_weight_le {below : List Expected} {tokens : List Token} {r : Stepped}
    (h : flowSequenceItem below tokens = some r) : r.2.weight ≤ 3 + weight ⟨below, tokens⟩ := by
  unfold flowSequenceItem at h
  split at h <;> cases h <;>
    simp only [weight_cons, weight_cons_token, Expected.weight] <;> omega

theorem flowMappingItem_weight_le {below : List Expected} {tokens : List Token} {r : Stepped}
    (h : flowMappingItem below tokens = some r) : r.2.weight ≤ 4 + weight ⟨below, tokens⟩ := by
  unfold flowMappingItem at h
  split at h
  · cases h
    simp only [weight_cons_token]
    omega
  · have := nodeOr_weight_le h
    simp only [weight_cons, weight_cons_token, Expected.weight] at this ⊢
    omega
  · cases h
    simp only [weight_cons, Expected.weight]
    omega

/-- Every step brings the end nearer. -/
theorem step_weight_lt {meanings : List (List Char × List Char)} {below : List Expected}
    {tokens : List Token} {e : Expected} {r : Stepped}
    (h : step meanings below tokens e = some r) : r.2.weight < weight ⟨e :: below, tokens⟩ := by
  rw [weight_cons]
  cases e with
  | node block indentless => exact node_weight_lt h
  | blockSequenceEntry =>
      simp only [step] at h
      split at h
      · have := nodeOr_weight_le h
        simp only [weight_cons, weight_cons_token, Expected.weight] at this ⊢
        omega
      · cases h
        simp only [weight_cons_token]
        omega
      · cases h
  | indentlessEntry =>
      simp only [step] at h
      split at h
      · have := nodeOr_weight_le h
        simp only [weight_cons, weight_cons_token, Expected.weight] at this ⊢
        omega
      · cases h
        simp only [Expected.weight]
        omega
  | blockMappingKey =>
      simp only [step] at h
      split at h
      · have := nodeOr_weight_le h
        simp only [weight_cons, weight_cons_token, Expected.weight] at this ⊢
        omega
      · cases h
        simp only [weight_cons_token]
        omega
      · cases h
  | blockMappingValue =>
      simp only [step] at h
      split at h
      · have := nodeOr_weight_le h
        simp only [weight_cons, weight_cons_token, Expected.weight] at this ⊢
        omega
      · cases h
        simp only [weight_cons, Expected.weight]
        omega
  | flowSequenceFirst =>
      have := flowSequenceItem_weight_le h
      simp only [Expected.weight]
      omega
  | flowSequenceEntry =>
      simp only [step] at h
      split at h
      · have := flowSequenceItem_weight_le h
        simp only [weight_cons_token, Expected.weight] at this ⊢
        omega
      · cases h
        simp only [weight_cons_token]
        omega
      · cases h
  | pairKey =>
      simp only [step] at h
      split at h
      · cases h
        have := weight_tail_le below tokens
        simp only [weight_cons, Expected.weight]
        omega
      · cases h
        simp only [weight_cons, Expected.weight]
        omega
  | pairValue =>
      simp only [step] at h
      split at h
      · have := nodeOr_weight_le h
        simp only [weight_cons, weight_cons_token, Expected.weight] at this ⊢
        omega
      · cases h
        simp only [weight_cons, Expected.weight]
        omega
  | pairEnd =>
      cases h
      simp only [Expected.weight]
      omega
  | flowMappingFirst =>
      have := flowMappingItem_weight_le h
      simp only [Expected.weight]
      omega
  | flowMappingKey =>
      simp only [step] at h
      split at h
      · have := flowMappingItem_weight_le h
        simp only [weight_cons_token, Expected.weight] at this ⊢
        omega
      · cases h
        simp only [weight_cons_token]
        omega
      · cases h
  | flowMappingValue =>
      simp only [step] at h
      split at h
      · have := nodeOr_weight_le h
        simp only [weight_cons, weight_cons_token, Expected.weight] at this ⊢
        omega
      · cases h
        simp only [weight_cons, Expected.weight]
        omega
  | flowMappingNoValue =>
      cases h
      simp only [weight_cons, Expected.weight]
      omega

/-- Run until nothing is expected any more.  Gives all events, and the tokens
behind the document. -/
def run (meanings : List (List Char × List Char)) (read : List Event) (g : Grammar) :
    Option (List Event × List Token) :=
  match _hexpected : g.expected with
  | [] => some (read.reverse, g.tokens)
  | e :: below =>
      match _h : step meanings below g.tokens e with
      | none => none
      | some (events, after) => run meanings (events.reverse ++ read) after
termination_by g.weight
decreasing_by
  have := step_weight_lt _h
  simpa [weight, _hexpected] using this

/-- The meanings of handles that need no directive. -/
def defaultMeanings : List (List Char × List Char) :=
  [(['!'], ['!']), (['!', '!'], "tag:yaml.org,2002:".toList)]

/-- The directives in front of a document, as the meanings that they give to
handles, and the tokens behind them.  There is at most one version, which is
known, and a handle is given a meaning once. -/
def directives? (version : Bool) (meanings : List (List Char × List Char)) :
    List Token → Option (List (List Char × List Char) × List Token)
  | .version major minor :: rest =>
      if version || major ≠ 1 || (minor ≠ 1 && minor ≠ 2) then none
      else directives? true meanings rest
  | .tagPrefix handle meaning :: rest =>
      if (meanings.lookup handle).isSome then none
      else directives? version ((handle, meaning) :: meanings) rest
  | tokens => some (meanings, tokens)

/-- The content of a document that has been started by its mark. -/
def documentContent (tokens : List Token) : Grammar × List Event :=
  match tokens with
  | [] | .documentStart :: _ | .documentEnd :: _ | .version .. :: _ | .tagPrefix .. :: _ =>
      (⟨[], tokens⟩, [.omitted])
  | _ => (⟨[.node true false], tokens⟩, [])

/-- The events of a stream's only document; none if the stream is empty. -/
def events? (tokens : List Token) : Option (List Event) := do
  if tokens.isEmpty then return []
  let (meanings, rest) ← directives? false [] tokens
  let (start, read) ← match rest with
    | .documentStart :: rest => some (documentContent rest)
    | _ => if rest.length = tokens.length then some (⟨[.node true false], tokens⟩, []) else none
  let (events, rest) ← run (meanings ++ defaultMeanings) read start
  if rest.all (· == .documentEnd) then return events else none

end Grammar

end LayeredConfig.Yaml
