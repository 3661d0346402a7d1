/-
Plain scalars: text without quotes.  One ends at a colon before a gap, at a
comment, at a line that is indented too little, at a document mark, and inside
a flow collection at the marks of the collection.
-/
import LayeredConfig.Yaml.Gap

namespace LayeredConfig.Yaml

/-- A plain scalar as far as it has been read, back to front, with the gap
behind its last word. -/
structure PlainScalar where
  text : List Char := []
  gap : Gap := {}

namespace PlainScalar

/-- Does a word end at this character? -/
def wordEnds (inFlow : Bool) (c : Char) (rest : List Char) : Bool :=
  (c == ':' && atGap rest) || (inFlow && isFlowMark c)

/-- Is this a colon that may not stand in a flow collection, since it touches
one of the marks? -/
def badColon (inFlow : Bool) (c : Char) (rest : List Char) : Bool :=
  inFlow && c == ':' &&
    match rest with
    | d :: _ => isFlowMark d || d == '?'
    | [] => false

/-- Does the scalar end at this character, which follows a gap?  `indent` is
the least indentation of its lines. -/
def endsAfterGap (inFlow : Bool) (indent : Nat) (mark : Mark) (cs : List Char) : Bool :=
  (!inFlow && decide (mark.column < indent)) ||
    (mark.column == 0 && atDocumentMark cs) || cs.head? == some '#'

def read (inFlow : Bool) (indent : Nat) (s : PlainScalar) (mark : Mark) :
    List Char → Option (Scanned PlainScalar)
  | [] => some ⟨s, mark, []⟩
  | '\r' :: '\n' :: rest =>
      read inFlow indent { s with gap := s.gap.addBreak '\n' } (mark.newLine 2) rest
  | c :: rest =>
      if isBreak c then
        read inFlow indent { s with gap := s.gap.addBreak c } (mark.newLine 1) rest
      else if isBlank c then
        if s.gap.broken && c == '\t' && mark.column < indent then none
        else read inFlow indent { s with gap := s.gap.addBlank c } mark.next rest
      else if !s.gap.isEmpty && endsAfterGap inFlow indent mark (c :: rest) then
        some ⟨s, mark, c :: rest⟩
      else if badColon inFlow c rest then none
      else if wordEnds inFlow c rest then some ⟨s, mark, c :: rest⟩
      else read inFlow indent ⟨c :: (s.gap.textBackwards ++ s.text), {}⟩ mark.next rest

end PlainScalar

end LayeredConfig.Yaml
