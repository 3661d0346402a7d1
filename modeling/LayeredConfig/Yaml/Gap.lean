/-
The blanks and line breaks between two words of a scalar, and what they count
as: blanks on one line stay, a single break is a space, and of several breaks
the first one goes.
-/
import LayeredConfig.Yaml.Character

namespace LayeredConfig.Yaml

/-- A gap in a scalar; what it holds stands back to front. -/
structure Gap where
  blanks : List Char := []
  firstBreak : Option Char := none
  moreBreaks : List Char := []
  broken : Bool := false

namespace Gap

/-- A gap that starts behind an escaped line break, which leaves nothing. -/
def afterEscape : Gap := { broken := true }

/-- Has nothing been read of the gap? -/
def isEmpty (gap : Gap) : Bool := !gap.broken && gap.blanks.isEmpty

/-- A blank follows; at the start of a line it does not count. -/
def addBlank (gap : Gap) (c : Char) : Gap :=
  if gap.broken then gap else { gap with blanks := c :: gap.blanks }

/-- A line break follows; the blanks before the first one do not count. -/
def addBreak (gap : Gap) (c : Char) : Gap :=
  if gap.broken then { gap with moreBreaks := breakText c :: gap.moreBreaks }
  else { gap with blanks := [], firstBreak := some (breakText c), broken := true }

/-- What the gap counts as, back to front. -/
def textBackwards (gap : Gap) : List Char :=
  if !gap.broken then gap.blanks
  else
    match gap.firstBreak with
    | some '\n' => if gap.moreBreaks.isEmpty then [' '] else gap.moreBreaks
    | some c => gap.moreBreaks ++ [c]
    | none => gap.moreBreaks

end Gap

end LayeredConfig.Yaml
