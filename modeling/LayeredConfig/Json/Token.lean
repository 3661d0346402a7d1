/-
The tokens of a JSON text: punctuation, strings, numbers and the three words.
Reading them is strict: no control may stand in a string, a number has no
spare zero and no bare point, and only the four blanks of JSON separate.
-/
import LayeredConfig.Text.HexDigit

namespace LayeredConfig.Json

export Text (hexValue?)

/-- A token.  A string whose escapes do not pair up their surrogates is a
token without a text. -/
inductive Token where
  | punctuation (c : Char)
  | string (text : Option String)
  | number (spelling : List Char)
  | word (name : List Char)
deriving DecidableEq

/-- One of the four blanks that may separate tokens. -/
def isSeparator (c : Char) : Bool :=
  c == ' ' || c == '\t' || c == '\n' || c == '\r'

/-- The 16-bit unit that four hexadecimal digits name. -/
def unit? (a b c d : Char) : Option Nat := do
  let a ← hexValue? a
  let b ← hexValue? b
  let c ← hexValue? c
  let d ← hexValue? d
  return ((a * 16 + b) * 16 + c) * 16 + d

/-- The character that an escape of one letter stands for. -/
def shortEscape? (c : Char) : Option Char :=
  if c = '"' then some '"'
  else if c = '\\' then some '\\'
  else if c = '/' then some '/'
  else if c = 'b' then some '\x08'
  else if c = 'f' then some '\x0c'
  else if c = 'n' then some '\n'
  else if c = 'r' then some '\r'
  else if c = 't' then some '\t'
  else none

/-- What has been read of a string: its characters back to front, a high
surrogate that waits for its partner, and whether one was left alone. -/
structure Partial where
  read : List Char := []
  high : Option Nat := none
  broken : Bool := false

namespace Partial

/-- A character follows; a surrogate that waited stays alone. -/
def addChar (p : Partial) (c : Char) : Partial :=
  ⟨c :: p.read, none, p.broken || p.high.isSome⟩

/-- A 16-bit unit follows. -/
def addUnit (p : Partial) (u : Nat) : Partial :=
  if 0xD800 ≤ u ∧ u < 0xDC00 then ⟨p.read, some u, p.broken || p.high.isSome⟩
  else if 0xDC00 ≤ u ∧ u < 0xE000 then
    match p.high with
    | some h => ⟨Char.ofNat (0x10000 + (h - 0xD800) * 0x400 + (u - 0xDC00)) :: p.read, none, p.broken⟩
    | none => { p with broken := true }
  else p.addChar (Char.ofNat u)

/-- The text, if every surrogate found its partner. -/
def text? (p : Partial) : Option String :=
  if p.broken || p.high.isSome then none else some (String.ofList p.read.reverse)

end Partial

/-- A string after its opening quote, and what follows its closing quote. -/
def readString (p : Partial) : List Char → Option (Option String × List Char)
  | [] => none
  | '"' :: rest => some (p.text?, rest)
  | '\\' :: 'u' :: a :: b :: c :: d :: rest =>
      match unit? a b c d with
      | some u => readString (p.addUnit u) rest
      | none => none
  | '\\' :: c :: rest =>
      match shortEscape? c with
      | some e => readString (p.addChar e) rest
      | none => none
  | c :: rest => if c.toNat < 0x20 || c = '\\' then none else readString (p.addChar c) rest

/-- Digits at the start of a text, and what follows them. -/
def takeDigits (cs : List Char) : List Char × List Char :=
  (cs.takeWhile Char.isDigit, cs.dropWhile Char.isDigit)

/-- A sign at the start of a text, and what follows it. -/
def takeSign : List Char → List Char × List Char
  | '+' :: rest => (['+'], rest)
  | '-' :: rest => (['-'], rest)
  | rest => ([], rest)

/-- The exponent of a number, if its mark is there. -/
def readExponent : List Char → Option (List Char × List Char)
  | c :: rest =>
      if c = 'e' ∨ c = 'E' then
        match takeDigits (takeSign rest).2 with
        | ([], _) => none
        | (digits, after) => some (c :: ((takeSign rest).1 ++ digits), after)
      else some ([], c :: rest)
  | [] => some ([], [])

/-- The fraction of a number, if its point is there. -/
def readFraction : List Char → Option (List Char × List Char)
  | '.' :: rest =>
      match takeDigits rest with
      | ([], _) => none
      | (digits, rest) => some ('.' :: digits, rest)
  | rest => some ([], rest)

/-- The whole part of a number: a zero alone, or digits. -/
def takeWhole : List Char → List Char × List Char
  | '0' :: rest => (['0'], rest)
  | cs => takeDigits cs

/-- A number without its sign. -/
def readMagnitude (cs : List Char) : Option (List Char × List Char) :=
  match takeWhole cs with
  | ([], _) => none
  | (whole, rest) =>
      match readFraction rest with
      | none => none
      | some (fraction, rest) =>
          (readExponent rest).map fun (exponent, rest) => (whole ++ fraction ++ exponent, rest)

/-- The first token of a text that does not start with a separator. -/
def readToken : List Char → Option (Token × List Char)
  | [] => none
  | '"' :: rest => (readString {} rest).map fun (s, rest) => (.string s, rest)
  | '-' :: rest => (readMagnitude rest).map fun (n, rest) => (.number ('-' :: n), rest)
  | c :: rest =>
      if c ∈ ['[', ']', '{', '}', ',', ':'] then some (.punctuation c, rest)
      else if c.isDigit then
        (readMagnitude (c :: rest)).map fun (n, rest) => (.number n, rest)
      else if "true".toList.isPrefixOf (c :: rest) then
        some (.word "true".toList, (c :: rest).drop 4)
      else if "false".toList.isPrefixOf (c :: rest) then
        some (.word "false".toList, (c :: rest).drop 5)
      else if "null".toList.isPrefixOf (c :: rest) then
        some (.word "null".toList, (c :: rest).drop 4)
      else none

theorem readString_rest_shorter {p : Partial} {cs rest : List Char} {s : Option String}
    (h : readString p cs = some (s, rest)) : rest.length < cs.length := by
  fun_induction readString p cs with
  | case1 => cases h
  | case2 => cases h; simp
  | case3 p a b c d cs u hu ih =>
      have := ih h
      simp only [List.length_cons]
      omega
  | case4 => cases h
  | case5 p c cs hc e he ih =>
      have := ih h
      simp only [List.length_cons]
      omega
  | case6 => cases h
  | case7 => cases h
  | case8 p c cs hq hu hc hlow ih =>
      have := ih h
      simp only [List.length_cons]
      omega

theorem takeDigits_append (cs : List Char) : (takeDigits cs).1 ++ (takeDigits cs).2 = cs :=
  List.takeWhile_append_dropWhile

theorem takeSign_append (cs : List Char) : (takeSign cs).1 ++ (takeSign cs).2 = cs := by
  unfold takeSign
  split <;> rfl

theorem takeWhole_append (cs : List Char) : (takeWhole cs).1 ++ (takeWhole cs).2 = cs := by
  unfold takeWhole
  split
  · rfl
  · exact takeDigits_append cs

theorem readFraction_append {cs fraction rest : List Char}
    (h : readFraction cs = some (fraction, rest)) : fraction ++ rest = cs := by
  unfold readFraction at h
  split at h
  · next cs =>
      have happend := takeDigits_append cs
      split at h
      · cases h
      · next heq =>
          cases h
          rw [heq] at happend
          simpa using happend
  · cases h; rfl

theorem readExponent_append {cs exponent rest : List Char}
    (h : readExponent cs = some (exponent, rest)) : exponent ++ rest = cs := by
  unfold readExponent at h
  split at h
  · next c cs =>
      split at h
      · have hsign := takeSign_append cs
        have happend := takeDigits_append (takeSign cs).2
        split at h
        · cases h
        · next heq =>
            cases h
            rw [heq] at happend
            simpa [happend] using hsign
      · cases h; rfl
  · cases h; rfl

/-- Nothing of a number is lost, and a number is not empty. -/
theorem readMagnitude_append {cs number rest : List Char}
    (h : readMagnitude cs = some (number, rest)) : number ++ rest = cs ∧ number ≠ [] := by
  unfold readMagnitude at h
  have hwhole := takeWhole_append cs
  split at h
  · cases h
  · next whole after hne heq =>
      rw [heq] at hwhole
      split at h
      · cases h
      · next fraction mid hfraction =>
          obtain ⟨⟨exponent, last⟩, hexponent, hpair⟩ := Option.map_eq_some_iff.1 h
          cases hpair
          have h1 := readFraction_append hfraction
          have h2 := readExponent_append hexponent
          exact ⟨by simp_all, fun hnil => hne (by simp_all)⟩

theorem readMagnitude_rest_shorter {cs number rest : List Char}
    (h : readMagnitude cs = some (number, rest)) : rest.length < cs.length := by
  obtain ⟨happend, hne⟩ := readMagnitude_append h
  rw [← happend, List.length_append]
  have := List.length_pos_iff.2 hne
  omega

theorem readToken_rest_shorter {cs rest : List Char} {token : Token}
    (h : readToken cs = some (token, rest)) : rest.length < cs.length := by
  unfold readToken at h
  split at h
  · cases h
  · next cs =>
      obtain ⟨⟨s, after⟩, hread, hpair⟩ := Option.map_eq_some_iff.1 h
      cases hpair
      exact Nat.lt_succ_of_lt (readString_rest_shorter hread)
  · next cs =>
      obtain ⟨⟨n, after⟩, hread, hpair⟩ := Option.map_eq_some_iff.1 h
      cases hpair
      exact Nat.lt_succ_of_lt (readMagnitude_rest_shorter hread)
  · next c cs _ _ =>
      split at h
      · cases h; simp
      · split at h
        · obtain ⟨⟨n, after⟩, hread, hpair⟩ := Option.map_eq_some_iff.1 h
          cases hpair
          exact readMagnitude_rest_shorter hread
        · split at h
          · cases h; rw [List.length_drop, List.length_cons]; omega
          · split at h
            · cases h; rw [List.length_drop, List.length_cons]; omega
            · split at h
              · cases h; rw [List.length_drop, List.length_cons]; omega
              · cases h

/-- All tokens of a text, behind those read so far, which stand back to front; nothing if
some part of the text is no token. -/
def tokensAfter (read : List Token) (cs : List Char) : Option (List Token) :=
  match cs with
  | [] => some read.reverse
  | c :: rest =>
      if isSeparator c then tokensAfter read rest
      else
        match _h : readToken (c :: rest) with
        | some (token, after) => tokensAfter (token :: read) after
        | none => none
termination_by cs.length
decreasing_by
  · simp
  · exact readToken_rest_shorter _h

def tokens? (s : String) : Option (List Token) := tokensAfter [] s.toList

end LayeredConfig.Json
