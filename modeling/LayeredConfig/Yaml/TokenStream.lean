/-
Cutting a YAML stream into tokens.  Two things need more than the characters
at hand.  Collections written by indentation start and end where the column
changes, and a node turns out to be a key only when the colon behind it is
reached, so that its key token is put in afterwards.
-/
import LayeredConfig.Yaml.BlockScalar
import LayeredConfig.Yaml.NodeProperty
import LayeredConfig.Yaml.PlainScalar
import LayeredConfig.Yaml.QuotedScalar
import LayeredConfig.Yaml.Token

namespace LayeredConfig.Yaml

/-- A place where a key may have started: the number of its first token, where
it stands, and whether nothing but a key can stand there. -/
structure KeyStart where
  number : Nat
  mark : Mark
  required : Bool

/-- A stream that has been cut up to a place.  Tokens stand back to front.
Indentations are one more than the column, so zero outside of all collections;
`outer` holds those of the collections around the innermost one.  There is one
possible key per flow collection that is open, and one outside of them. -/
structure TokenStream where
  rest : List Char
  mark : Mark := {}
  tokens : List Token := []
  count : Nat := 0
  indent : Nat := 0
  outer : List Nat := []
  key : Option KeyStart := none
  outerKeys : List (Option KeyStart) := []
  keyAllowed : Bool := true

namespace TokenStream

/-- How deep collections may be nested. -/
def depthLimit : Nat := 128

/-- How many characters a key may take before its colon. -/
def keyLimit : Nat := 1024

def inFlow (s : TokenStream) : Bool := !s.outerKeys.isEmpty

def emit (s : TokenStream) (token : Token) : TokenStream :=
  { s with tokens := token :: s.tokens, count := s.count + 1 }

/-- Go on behind something that was read. -/
def goTo {α : Type} (s : TokenStream) (scanned : Scanned α) : TokenStream :=
  { s with mark := scanned.mark, rest := scanned.rest }

/-- Go on behind so many characters of the line. -/
def skip (s : TokenStream) (n : Nat) : TokenStream :=
  { s with mark := s.mark.skip n, rest := s.rest.drop n }

/-- The text behind blanks, comments and line breaks, with its place and
whether a key may start there: outside of flow collections a new line allows
one.  Where one may start, a tab is no blank. -/
def skipGap (inFlow allowed comment : Bool) (mark : Mark) : List Char → Scanned Bool
  | [] => ⟨allowed, mark, []⟩
  | '\r' :: '\n' :: rest => skipGap inFlow (allowed || !inFlow) false (mark.newLine 2) rest
  | c :: rest =>
      if isBreak c then skipGap inFlow (allowed || !inFlow) false (mark.newLine 1) rest
      else if comment then skipGap inFlow allowed true mark.next rest
      else if c = '\uFEFF' && mark.column = 0 then skipGap inFlow allowed false mark.next rest
      else if c = ' ' || (c = '\t' && (inFlow || !allowed)) then
        skipGap inFlow allowed false mark.next rest
      else if c = '#' then skipGap inFlow allowed true mark.next rest
      else ⟨allowed, mark, c :: rest⟩

/-- Is a possible key too far back to be one? -/
def isStale (mark : Mark) (key : KeyStart) : Bool :=
  key.mark.line < mark.line || key.mark.index + keyLimit < mark.index

/-- Drop a possible key; nothing if a key has to be there. -/
def dropKey? (key : Option KeyStart) : Option (Option KeyStart) :=
  match key with
  | some start => if start.required then none else some none
  | none => some none

/-- Drop a possible key that is too far back. -/
def dropStale? (mark : Mark) (key : Option KeyStart) : Option (Option KeyStart) :=
  if key.any (isStale mark) then dropKey? key else some key

/-- Drop all possible keys that are too far back. -/
def dropStaleKeys (s : TokenStream) : Option TokenStream := do
  let key ← dropStale? s.mark s.key
  let outerKeys ← s.outerKeys.mapM (dropStale? s.mark)
  return { s with key := key, outerKeys := outerKeys }

/-- Drop the possible key of the innermost flow collection. -/
def removeKey (s : TokenStream) : Option TokenStream := do
  let key ← dropKey? s.key
  return { s with key := key }

/-- Note that a key may start here, if one is allowed to.  At the indentation
of a collection nothing but a key can stand. -/
def saveKey (s : TokenStream) : Option TokenStream :=
  if s.keyAllowed then do
    let s ← s.removeKey
    return { s with
      key := some ⟨s.count, s.mark, !s.inFlow && s.indent == s.mark.column + 1⟩ }
  else some s

/-- End the collections that are indented deeper than this. -/
def endBlocks (limit : Nat) (s : TokenStream) : (outer : List Nat) → TokenStream
  | [] => s
  | indent :: outer =>
      if s.indent > limit then
        endBlocks limit { s.emit .blockEnd with indent := indent, outer := outer } outer
      else s

/-- End the collections that are indented deeper than this, unless a flow
collection is open. -/
def unroll (s : TokenStream) (limit : Nat) : TokenStream :=
  if s.inFlow then s else endBlocks limit s s.outer

/-- Start a collection at a column, if it is indented deeper than what is
around it.  Its first token goes before the token of a number. -/
def roll (s : TokenStream) (column number : Nat) (token : Token) : TokenStream :=
  if s.inFlow || column < s.indent then s
  else
    { s with
      tokens := s.tokens.take (s.count - number) ++ token :: s.tokens.drop (s.count - number)
      count := s.count + 1
      outer := s.indent :: s.outer
      indent := column + 1 }

/-- A directive or a document mark ends everything. -/
def atDocumentLevel (s : TokenStream) : Option TokenStream := do
  let s ← (s.unroll 0).removeKey
  return { s with keyAllowed := false }

def directive (s : TokenStream) : Option TokenStream := do
  let s ← s.atDocumentLevel
  let read ← readDirective s.mark.next (s.rest.drop 1)
  return (s.goTo read).emit read.value

/-- Three dashes or dots. -/
def documentMark (s : TokenStream) (token : Token) : Option TokenStream := do
  let s ← s.atDocumentLevel
  return (s.skip 3).emit token

/-- An opening bracket or brace, which may start a key and may be followed by
one. -/
def flowStart (s : TokenStream) (token : Token) : Option TokenStream := do
  let s ← s.saveKey
  if s.outerKeys.length ≥ depthLimit then none
  return { (s.skip 1).emit token with
    outerKeys := s.key :: s.outerKeys, key := none, keyAllowed := true }

def flowEnd (s : TokenStream) (token : Token) : Option TokenStream := do
  let s ← s.removeKey
  let s := match s.outerKeys with
    | key :: outerKeys => { s with key := key, outerKeys := outerKeys }
    | [] => s
  return { (s.skip 1).emit token with keyAllowed := false }

def flowEntry (s : TokenStream) : Option TokenStream := do
  let s ← s.removeKey
  return { (s.skip 1).emit .flowEntry with keyAllowed := true }

/-- A dash in front of an entry.  Outside of flow collections it has to stand
where a key may. -/
def blockEntry (s : TokenStream) : Option TokenStream := do
  if !s.inFlow && !s.keyAllowed then none
  let s ← (s.roll s.mark.column s.count .blockSequenceStart).removeKey
  return { (s.skip 1).emit .blockEntry with keyAllowed := true }

def explicitKey (s : TokenStream) : Option TokenStream := do
  if !s.inFlow && !s.keyAllowed then none
  let s ← (s.roll s.mark.column s.count .blockMappingStart).removeKey
  return { (s.skip 1).emit .key with keyAllowed := !s.inFlow }

/-- A colon in front of a value.  If a key may have started before it, this
was one. -/
def value (s : TokenStream) : Option TokenStream :=
  match s.key with
  | some start =>
      let behind := s.count - start.number
      let marked := { s with
        tokens := s.tokens.take behind ++ Token.key :: s.tokens.drop behind, count := s.count + 1 }
      let rolled := marked.roll start.mark.column start.number .blockMappingStart
      some { (rolled.skip 1).emit .value with key := none, keyAllowed := false }
  | none => do
      if !s.inFlow && !s.keyAllowed then none
      let s := s.roll s.mark.column s.count .blockMappingStart
      return { (s.skip 1).emit .value with keyAllowed := !s.inFlow }

/-- Something that may be a key, and that no key can follow directly. -/
def keyPart (s : TokenStream) (read : TokenStream → Option (Scanned Token)) :
    Option TokenStream := do
  let s ← s.saveKey
  let read ← read s
  return { (s.goTo read).emit read.value with keyAllowed := false }

/-- An anchor or an alias. -/
def name (s : TokenStream) (token : List Char → Token) : Option TokenStream :=
  s.keyPart fun s => (readName s.mark.next (s.rest.drop 1)).map fun read =>
    ⟨token read.value, read.mark, read.rest⟩

def tag (s : TokenStream) : Option TokenStream :=
  s.keyPart fun s => readTag s.inFlow s.mark.next (s.rest.drop 1)

def quoted (s : TokenStream) (quote : Char) : Option TokenStream :=
  s.keyPart fun s => (readQuoted quote (.gap {}) [] s.mark.next (s.rest.drop 1)).map fun read =>
    ⟨.scalar read.value.reverse false, read.mark, read.rest⟩

/-- A block scalar; a key may follow it. -/
def block (s : TokenStream) (folded : Bool) : Option TokenStream := do
  let s ← s.removeKey
  let read ← readBlockScalar folded s.indent s.mark.next (s.rest.drop 1)
  return { (s.goTo read).emit (.scalar read.value.reverse false) with keyAllowed := true }

/-- A plain scalar; a key may follow it if a line break did. -/
def plain (s : TokenStream) : Option TokenStream := do
  let s ← s.saveKey
  let read ← PlainScalar.read s.inFlow s.indent {} s.mark s.rest
  return { (s.goTo read).emit (.scalar read.value.text.reverse true) with
    keyAllowed := read.value.gap.broken }

/-- May a plain scalar start with this character? -/
def startsPlain (inFlow : Bool) (c : Char) (rest : List Char) : Bool :=
  if c ∈ [',', '[', ']', '{', '}', '#', '&', '*', '!', '|', '>', '\'', '"', '%', '@', '`'] then false
  else if c = '-' then !(rest.head?.any isBlank)
  else if c = '?' || c = ':' then !inFlow && !atGap rest
  else !(isBlank c || isBreak c)

def fetch (s : TokenStream) (c : Char) (rest : List Char) : Option TokenStream :=
  if s.mark.column = 0 && c = '%' then s.directive
  else if s.mark.column = 0 && atDocumentMark (c :: rest) then
    s.documentMark (if c = '-' then .documentStart else .documentEnd)
  else if c = '[' then s.flowStart .flowSequenceStart
  else if c = '{' then s.flowStart .flowMappingStart
  else if c = ']' then s.flowEnd .flowSequenceEnd
  else if c = '}' then s.flowEnd .flowMappingEnd
  else if c = ',' then s.flowEntry
  else if c = '-' && atGap rest then s.blockEntry
  else if c = '?' && (s.inFlow || atGap rest) then s.explicitKey
  else if c = ':' && (s.inFlow || atGap rest) then s.value
  else if c = '*' then s.name .alias
  else if c = '&' then s.name .anchor
  else if c = '!' then s.tag
  else if c = '|' && !s.inFlow then s.block false
  else if c = '>' && !s.inFlow then s.block true
  else if c = '\'' || c = '"' then s.quoted c
  else if startsPlain s.inFlow c rest then s.plain
  else none

def advance (s : TokenStream) : Option TokenStream := do
  let gap := skipGap s.inFlow s.keyAllowed false s.mark s.rest
  let s ← dropStaleKeys { s.goTo gap with keyAllowed := gap.value }
  return s.unroll (s.mark.column + 1)

/-- Cut the whole stream.  Every token takes at least one character, so their
number bounds the work. -/
def cut : (fuel : Nat) → TokenStream → Option TokenStream
  | 0, _ => none
  | fuel + 1, s => do
      let s ← s.advance
      match s.rest with
      | [] => (s.unroll 0).removeKey
      | c :: rest => cut fuel (← s.fetch c rest)

end TokenStream

/-- The tokens of a stream, if it can be cut into tokens. -/
def tokens? (stream : List Char) : Option (List Token) :=
  if stream.all isAllowed then
    (TokenStream.cut (stream.length + 1) { rest := stream }).map fun s => s.tokens.reverse
  else none

end LayeredConfig.Yaml
