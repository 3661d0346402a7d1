/-
Lower-casing of a whole text.  A character is replaced by its small letter
wherever it stands; the one exception is the capital sigma, whose small letter
at the end of a word has a form of its own.
-/
import LayeredConfig.Text.CaseTable

namespace LayeredConfig.Text

/-- Does a code point lie in one of the runs? -/
def inRuns (runs : List (Nat × Nat)) (n : Nat) : Bool :=
  runs.any fun run => run.1 ≤ n && n ≤ run.2

/-- The small letter of a code point beyond ASCII, itself if it has none. -/
def smallPoint (n : Nat) : Nat :=
  match capitalRuns.find? fun run =>
      run.first ≤ n && n ≤ run.last && (n - run.first) % run.step == 0 with
  | some run => run.small + (n - run.first)
  | none => n

/-- The small form of one character, whatever stands around it.  Only the
capital I with a dot becomes two characters, so that its dot is kept. -/
def lowerChar (c : Char) : List Char :=
  if c.toNat < 128 then [c.toLower]
  else if c = '\u0130' then ['i', '\u0307']
  else [Char.ofNat (smallPoint c.toNat)]

/-- Is the nearest character that is not passed over a cased one? -/
def meetsCased (cs : List Char) : Bool :=
  match cs.dropWhile fun c => inRuns caseIgnorableRuns c.toNat with
  | [] => false
  | c :: _ => inRuns casedRuns c.toNat

/-- Lower-case what follows `before`, which is given nearest character first.
A sigma ends a word if a cased letter stands before it and none after it. -/
def lowercaseAfter (before : List Char) : List Char → List Char
  | [] => []
  | c :: rest =>
      (if c = 'Σ' then
        [if meetsCased before && !meetsCased rest then 'ς' else 'σ']
      else lowerChar c) ++ lowercaseAfter (c :: before) rest

/-- Lower-case a text. -/
def lowercase (s : String) : String :=
  String.ofList (lowercaseAfter [] s.toList)

example : lowercase "X-Cfg-ΑΣ" = "x-cfg-ας" := by decide +kernel
example : lowercase "aΣ'b İ" = "aσ'b i\u0307" := by decide +kernel

end LayeredConfig.Text
