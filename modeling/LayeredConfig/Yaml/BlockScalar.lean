/-
Block scalars: the indented lines below a bar, which keeps their breaks, or
below a greater-than sign, which folds them.
-/
import LayeredConfig.Yaml.Character

namespace LayeredConfig.Yaml

/-- What becomes of the line breaks at the end of a block scalar. -/
inductive Chomping where
  | clip
  | strip
  | keep
deriving DecidableEq, Repr

/-- The line that opens a block scalar: how its end is chomped, and how much
deeper than its parent it is indented, if that is said. -/
structure BlockHeader where
  chomping : Chomping := .clip
  increment : Option Nat := none
deriving DecidableEq, Repr

/-- How many characters say what a header says. -/
def BlockHeader.width (header : BlockHeader) : Nat :=
  (if header.chomping = .clip then 0 else 1) + header.increment.toList.length

/-- A chomping indicator at the start of a text. -/
def chomping? : List Char → Option (Chomping × List Char)
  | '+' :: rest => some (.keep, rest)
  | '-' :: rest => some (.strip, rest)
  | _ => none

/-- An indentation indicator at the start of a text; zero is none. -/
def increment? : List Char → Option (Nat × List Char)
  | c :: rest => if c.isDigit then some (c.toNat - '0'.toNat, rest) else none
  | [] => none

/-- The indicators of a header, in either order, with the text behind them. -/
def readIndicators (cs : List Char) : BlockHeader × List Char :=
  match chomping? cs with
  | some (chomping, rest) =>
      match increment? rest with
      | some (n, rest) => (⟨chomping, some n⟩, rest)
      | none => (⟨chomping, none⟩, rest)
  | none =>
      match increment? cs with
      | some (n, rest) =>
          match chomping? rest with
          | some (chomping, rest) => (⟨chomping, some n⟩, rest)
          | none => (⟨.clip, some n⟩, rest)
      | none => ({}, cs)

/-- The text behind the blanks and the comment that end a line, with its place,
if nothing else stands there. -/
def finishLine (mark : Mark) (cs : List Char) : Option (Mark × List Char) :=
  let blanks := cs.takeWhile isBlank
  let rest := cs.dropWhile isBlank
  let comment := if rest.head? == some '#' then rest.takeWhile fun c => !isBreak c else []
  let rest := rest.drop comment.length
  let mark := mark.skip (blanks.length + comment.length)
  match rest with
  | [] => some (mark, [])
  | '\r' :: '\n' :: rest => some (mark.newLine 2, rest)
  | c :: rest => if isBreak c then some (mark.newLine 1, rest) else none

/-- The empty lines before the first line of a block scalar whose indentation
is not known: their breaks back to front, and the deepest column reached. -/
def leadingLines (breaks : List Char) (deepest : Nat) (mark : Mark) :
    List Char → Option (Scanned (List Char × Nat))
  | [] => some ⟨(breaks, max deepest mark.column), mark, []⟩
  | '\r' :: '\n' :: rest =>
      leadingLines ('\n' :: breaks) (max deepest mark.column) (mark.newLine 2) rest
  | c :: rest =>
      if c = ' ' then leadingLines breaks deepest mark.next rest
      else if c = '\t' then none
      else if isBreak c then
        leadingLines (breakText c :: breaks) (max deepest mark.column) (mark.newLine 1) rest
      else some ⟨(breaks, max deepest mark.column), mark, c :: rest⟩

/-- A block scalar as far as it has been read, all of it back to front: its
text, the break behind its last line, the breaks of the empty lines after
that.  `blankLine` says that its last line started with a blank, `inLine` that
a line is being read. -/
structure BlockScalar where
  text : List Char := []
  lastBreak : Option Char := none
  breaks : List Char := []
  blankLine : Bool := false
  inLine : Bool := false

namespace BlockScalar

/-- Start a line with this character.  A folded break between two lines that
do not start with a blank is a space, or nothing if empty lines follow. -/
def startLine (folded : Bool) (s : BlockScalar) (c : Char) : BlockScalar :=
  let joint :=
    if folded && s.lastBreak == some '\n' && !s.blankLine && !isBlank c then
      if s.breaks.isEmpty then [' '] else []
    else s.lastBreak.toList
  ⟨c :: (s.breaks ++ (joint ++ s.text)), none, [], isBlank c, true⟩

def addBreak (s : BlockScalar) (c : Char) : BlockScalar :=
  if s.inLine then { s with lastBreak := some (breakText c), inLine := false }
  else { s with breaks := breakText c :: s.breaks }

/-- The lines of a block scalar with this indentation. -/
def read (folded : Bool) (indent : Nat) (s : BlockScalar) (mark : Mark) :
    List Char → Option (Scanned BlockScalar)
  | [] => some ⟨s, mark, []⟩
  | '\r' :: '\n' :: rest => read folded indent (s.addBreak '\n') (mark.newLine 2) rest
  | c :: rest =>
      if isBreak c then read folded indent (s.addBreak c) (mark.newLine 1) rest
      else if s.inLine then read folded indent { s with text := c :: s.text } mark.next rest
      else if mark.column < indent then
        if c = ' ' then read folded indent s mark.next rest
        else if c = '\t' then none
        else some ⟨s, mark, c :: rest⟩
      else if mark.column = indent then
        read folded indent (s.startLine folded c) mark.next rest
      else some ⟨s, mark, c :: rest⟩

/-- The text of a block scalar whose end has been chomped, back to front. -/
def chomp (chomping : Chomping) (s : BlockScalar) : List Char :=
  match chomping with
  | .strip => s.text
  | .clip => s.lastBreak.toList ++ s.text
  | .keep => s.breaks ++ (s.lastBreak.toList ++ s.text)

end BlockScalar

/-- A block scalar from behind its indicator.  `parent` is the indentation of
the collection around it, one more than its column, so zero outside of all. -/
def readBlockScalar (folded : Bool) (parent : Nat) (mark : Mark) (cs : List Char) :
    Option (Scanned (List Char)) := do
  let (header, rest) := readIndicators cs
  if header.increment = some 0 then none
  let (mark, rest) ← finishLine (mark.skip header.width) rest
  let (indent, start) ← match header.increment with
    | some n => some ((if parent = 0 then n else parent - 1 + n), (⟨{}, mark, rest⟩ : Scanned BlockScalar))
    | none => do
        let leading ← leadingLines [] 0 mark rest
        some (max (max leading.value.2 parent) 1,
          ⟨{ breaks := leading.value.1 }, leading.mark, leading.rest⟩)
  let read ← BlockScalar.read folded indent start.value start.mark start.rest
  return ⟨read.value.chomp header.chomping, read.mark, read.rest⟩

end LayeredConfig.Yaml
