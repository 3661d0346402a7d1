/-
The tokens of a JSON text are read as the grammar spells them: strings with all
their escapes, numbers up to where they end, punctuation and the three words.
-/
import LayeredConfig.Json.Token
import LayeredConfig.Proofs.Json.Grammar

namespace LayeredConfig.Json

section Strings

theorem hexValue?_eq {c : Char} {n : Nat} (h : IsHexDigit c n) : hexValue? c = some n := by
  have hdecimal : ∀ n < 10, hexValue? (Char.ofNat ('0'.toNat + n)) = some n := by decide
  have hsmall : ∀ n < 6, hexValue? (Char.ofNat ('a'.toNat + n)) = some (10 + n) := by decide
  have hcapital : ∀ n < 6, hexValue? (Char.ofNat ('A'.toNat + n)) = some (10 + n) := by decide
  cases h with
  | decimal hn => exact hdecimal _ hn
  | small hn => exact hsmall _ hn
  | capital hn => exact hcapital _ hn

theorem shortEscape?_eq {escape c : Char} (h : (escape, c) ∈ letterEscapes) :
    escape ≠ 'u' ∧ shortEscape? escape = some c := by
  have hall : ∀ pair ∈ letterEscapes, pair.1 ≠ 'u' ∧ shortEscape? pair.1 = some pair.2 := by
    decide
  exact hall (escape, c) h

variable {digits cs rest : List Char} {u : Nat}

theorem readString_unit (h : NamesUnit digits u) (p : Partial) (cs : List Char) :
    readString p ('\\' :: 'u' :: (digits ++ cs)) = readString (p.addUnit u) cs := by
  cases h with
  | @digits a b c d k l m n ha hb hc hd =>
      have hunit : unit? a b c d = some (k * 0x1000 + l * 0x100 + m * 0x10 + n) := by
        simp only [unit?, hexValue?_eq ha, hexValue?_eq hb, hexValue?_eq hc, hexValue?_eq hd]
        simp only [Option.bind_eq_bind, Option.bind_some, Option.pure_def, Option.some.injEq]
        omega
      simp only [List.cons_append, List.nil_append, readString, hunit]

theorem readString_letter {escape c : Char} (h : (escape, c) ∈ letterEscapes) (p : Partial)
    (cs : List Char) : readString p ('\\' :: escape :: cs) = readString (p.addChar c) cs := by
  obtain ⟨hne, hescape⟩ := shortEscape?_eq h
  rw [readString]
  · rw [hescape]
  · rintro _ _ _ _ _ rfl
    exact absurd rfl hne

theorem readString_plain {c : Char} (hcontrol : 0x20 ≤ c.toNat) (hquote : c ≠ '"')
    (hslash : c ≠ '\\') (p : Partial) (cs : List Char) :
    readString p (c :: cs) = readString (p.addChar c) cs := by
  rw [readString]
  · simp [hslash, Nat.not_lt.2 hcontrol]
  · exact hquote
  · intro a b d e after hc
    exact absurd hc hslash
  · intro escape after hc
    exact absurd hc hslash

/-- A unit that is a character by itself. -/
theorem addUnit_toNat (read : List Char) (c : Char) :
    (⟨read, none, false⟩ : Partial).addUnit c.toNat = ⟨c :: read, none, false⟩ := by
  have hvalid : c.toNat < 0xD800 ∨ 0xE000 ≤ c.toNat := by
    rcases c.valid with hlow | ⟨hhigh, _⟩
    · exact Or.inl hlow
    · exact Or.inr hhigh
  rw [Partial.addUnit, if_neg (by omega), if_neg (by omega), Char.ofNat_toNat]
  rfl

theorem addUnit_pair {m n : Nat} (hm : m < 0x400) (hn : n < 0x400) {c : Char}
    (hc : c.toNat = 0x10000 + m * 0x400 + n) (read : List Char) :
    ((⟨read, none, false⟩ : Partial).addUnit (0xD800 + m)).addUnit (0xDC00 + n) =
      ⟨c :: read, none, false⟩ := by
  have hhigh : (⟨read, none, false⟩ : Partial).addUnit (0xD800 + m) =
      ⟨read, some (0xD800 + m), false⟩ := by
    rw [Partial.addUnit, if_pos (by omega)]
    rfl
  rw [hhigh, Partial.addUnit, if_neg (by omega), if_pos (by omega)]
  simp only [Nat.add_sub_cancel_left, ← hc, Char.ofNat_toNat]

/-- Up to its closing quote a string is read as the characters that it spells. -/
theorem readString_append {text : List Char} (h : SpellsText cs text) (read rest : List Char) :
    readString ⟨read, none, false⟩ (cs ++ '"' :: rest) =
      some (some (String.ofList (read.reverse ++ text)), rest) := by
  have haddChar : ∀ read c, (⟨read, none, false⟩ : Partial).addChar c = ⟨c :: read, none, false⟩ :=
    fun _ _ => rfl
  induction h generalizing read with
  | nil => simp [readString, Partial.text?]
  | plain hcontrol hquote hslash _ ih =>
      rw [List.cons_append, readString_plain hcontrol hquote hslash, haddChar, ih,
        List.reverse_cons, List.append_assoc, List.singleton_append]
  | letter hescape _ ih =>
      rw [List.cons_append, List.cons_append, readString_letter hescape, haddChar, ih,
        List.reverse_cons, List.append_assoc, List.singleton_append]
  | unit hdigits _ ih =>
      rw [List.cons_append, List.cons_append, List.append_assoc, readString_unit hdigits,
        addUnit_toNat, ih, List.reverse_cons, List.append_assoc, List.singleton_append]
  | pair hm hn hhigh hlow hc _ ih =>
      simp only [List.cons_append, List.append_assoc]
      rw [readString_unit hhigh, readString_unit hlow, addUnit_pair hm hn hc, ih,
        List.reverse_cons, List.append_assoc, List.singleton_append]

end Strings

section Numbers

/-- What may stand behind a value: the end of the text, a blank, or punctuation
that ends what the value is a part of. -/
def Follows (rest : List Char) : Prop :=
  ∀ c ∈ rest.head?, c ∈ [' ', '\t', '\n', '\r', ',', ']', '}']

variable {cs whole fraction exponent rest : List Char}

theorem Follows.head (h : Follows rest) :
    ∀ c ∈ rest.head?, c.isDigit = false ∧ c ≠ '.' ∧ c ≠ 'e' ∧ c ≠ 'E' := by
  have hall : ∀ c ∈ [' ', '\t', '\n', '\r', ',', ']', '}'],
      c.isDigit = false ∧ c ≠ '.' ∧ c ≠ 'e' ∧ c ≠ 'E' := by simp
  exact fun c hc => hall c (h c hc)

theorem takeDigits_digits (h : ∀ c ∈ cs, c.isDigit = true)
    (hrest : ∀ c ∈ rest.head?, c.isDigit = false) : takeDigits (cs ++ rest) = (cs, rest) := by
  rw [takeDigits, List.takeWhile_append_of_pos h, List.dropWhile_append_of_pos h]
  cases rest with
  | nil => simp
  | cons c rest =>
      have hc : ¬ c.isDigit = true := by simp [hrest c rfl]
      rw [List.takeWhile_cons_of_neg hc, List.dropWhile_cons_of_neg hc, List.append_nil]

theorem takeSign_sign {sign : List Char} (hsign : sign ∈ [[], ['+'], ['-']]) {c : Char}
    (hc : c.isDigit = true) (cs : List Char) :
    takeSign (sign ++ c :: cs) = (sign, c :: cs) := by
  have hsigns : sign = [] ∨ sign = ['+'] ∨ sign = ['-'] := by simpa using hsign
  rcases hsigns with rfl | rfl | rfl
  · rw [List.nil_append]
    unfold takeSign
    split
    · next heq =>
        rw [(List.cons.inj heq).1] at hc
        exact absurd hc (by decide)
    · next heq =>
        rw [(List.cons.inj heq).1] at hc
        exact absurd hc (by decide)
    · rfl
  · rfl
  · rfl

theorem readExponent_exponent (h : IsExponent exponent) (hrest : Follows rest) :
    readExponent (exponent ++ rest) = some (exponent, rest) := by
  cases h with
  | absent =>
      cases rest with
      | nil => rfl
      | cons c rest =>
          obtain ⟨_, _, he, hE⟩ := hrest.head c rfl
          simp [readExponent, he, hE]
  | @digits mark sign digits hmark hsign hdigits =>
      obtain ⟨hne, hall⟩ := hdigits
      have hmarks : mark = 'e' ∨ mark = 'E' := by simpa using hmark
      have hread := takeDigits_digits hall fun c hc => (hrest.head c hc).1
      obtain ⟨d, ds, rfl⟩ := List.exists_cons_of_ne_nil hne
      have htake := takeSign_sign hsign (hall d List.mem_cons_self) (ds ++ rest)
      rw [List.cons_append] at hread
      rw [List.cons_append, List.append_assoc, List.cons_append, readExponent, if_pos hmarks, htake]
      simp only [hread]

theorem head_exponent (h : IsExponent exponent) (hrest : Follows rest) :
    ∀ c ∈ (exponent ++ rest).head?, c.isDigit = false ∧ c ≠ '.' := by
  cases h with
  | absent =>
      intro c hc
      obtain ⟨hdigit, hpoint, _⟩ := hrest.head c hc
      exact ⟨hdigit, hpoint⟩
  | @digits mark _ _ hmark _ _ =>
      have hall : ∀ c ∈ ['e', 'E'], c.isDigit = false ∧ c ≠ '.' := by simp
      rintro c hc
      obtain rfl : mark = c := by simpa using hc
      exact hall mark hmark

theorem readFraction_fraction (h : IsFraction fraction)
    (hrest : ∀ c ∈ rest.head?, c.isDigit = false ∧ c ≠ '.') :
    readFraction (fraction ++ rest) = some (fraction, rest) := by
  cases h with
  | absent =>
      rw [List.nil_append]
      unfold readFraction
      split
      · next after =>
          exact absurd rfl (hrest '.' rfl).2
      · rfl
  | @digits digits hdigits =>
      obtain ⟨hne, hall⟩ := hdigits
      have hread := takeDigits_digits hall fun c hc => (hrest c hc).1
      obtain ⟨d, ds, rfl⟩ := List.exists_cons_of_ne_nil hne
      rw [List.cons_append, readFraction]
      simp only [hread]

theorem head_fraction (h : IsFraction fraction) (hrest : ∀ c ∈ rest.head?, c.isDigit = false) :
    ∀ c ∈ (fraction ++ rest).head?, c.isDigit = false := by
  cases h with
  | absent => exact hrest
  | digits _ =>
      intro c hc
      obtain rfl : '.' = c := by simpa using hc
      decide

theorem takeWhole_whole (h : IsWhole whole) (hrest : ∀ c ∈ rest.head?, c.isDigit = false) :
    takeWhole (whole ++ rest) = (whole, rest) := by
  cases h with
  | zero => rfl
  | @digits c cs hc hdigits =>
      rw [← takeDigits_digits hdigits.2 hrest, List.cons_append]
      unfold takeWhole
      split
      · next heq => exact absurd (List.cons.inj heq).1 hc
      · rfl

theorem IsWhole.exists_cons (h : IsWhole whole) : ∃ c cs, whole = c :: cs ∧ c.isDigit = true := by
  cases h with
  | zero => exact ⟨'0', [], rfl, by decide⟩
  | digits _ hdigits => exact ⟨_, _, rfl, hdigits.2 _ List.mem_cons_self⟩

theorem IsMagnitude.exists_cons (h : IsMagnitude cs) :
    ∃ c after, cs = c :: after ∧ c.isDigit = true := by
  cases h with
  | parts hwhole _ _ =>
      obtain ⟨c, after, rfl, hdigit⟩ := hwhole.exists_cons
      exact ⟨c, _, rfl, hdigit⟩

/-- A number is read to its end. -/
theorem readMagnitude_magnitude (h : IsMagnitude cs) (hrest : Follows rest) :
    readMagnitude (cs ++ rest) = some (cs, rest) := by
  cases h with
  | @parts whole fraction exponent hwhole hfraction hexponent =>
      have hpoint := head_exponent hexponent hrest
      have hend := head_fraction hfraction fun c hc => (hpoint c hc).1
      have hread := takeWhole_whole hwhole hend
      obtain ⟨c, cs, rfl, _⟩ := hwhole.exists_cons
      rw [List.append_assoc, List.append_assoc, readMagnitude, hread]
      simp only [readFraction_fraction hfraction hpoint, readExponent_exponent hexponent hrest]
      simp

end Numbers

section Tokens

variable {cs rest : List Char}

theorem readToken_string {text : String} (h : SpellsString cs text) (rest : List Char) :
    readToken (cs ++ rest) = some (.string (some text), rest) := by
  cases h with
  | quoted htext =>
      have hread := readString_append htext [] rest
      rw [List.cons_append, List.append_assoc, List.singleton_append, readToken, hread]
      simp

theorem readToken_punctuation {c : Char} (h : c ∈ ['[', ']', '{', '}', ',', ':'])
    (rest : List Char) : readToken (c :: rest) = some (.punctuation c, rest) := by
  have hall : ∀ c ∈ ['[', ']', '{', '}', ',', ':'], c ≠ '"' ∧ c ≠ '-' := by simp
  obtain ⟨hquote, hminus⟩ := hall c h
  rw [readToken]
  · rw [if_pos h]
  · exact hquote
  · exact hminus

theorem readToken_number (h : IsNumber cs) (hrest : Follows rest) :
    readToken (cs ++ rest) = some (.number cs, rest) := by
  cases h with
  | positive hmagnitude =>
      have hread := readMagnitude_magnitude hmagnitude hrest
      obtain ⟨c, after, rfl, hdigit⟩ := hmagnitude.exists_cons
      have hall : ∀ d ∈ ['"', '-', '[', ']', '{', '}', ',', ':'], d.isDigit = false := by simp
      have hother : c ∉ ['"', '-', '[', ']', '{', '}', ',', ':'] := by
        intro hc
        rw [hall c hc] at hdigit
        contradiction
      rw [List.mem_cons, List.mem_cons, not_or, not_or] at hother
      obtain ⟨hquote, hminus, hpunctuation⟩ := hother
      rw [List.cons_append] at hread ⊢
      rw [readToken]
      · rw [if_neg hpunctuation, if_pos hdigit, hread]
        rfl
      · exact hquote
      · exact hminus
  | negative hmagnitude =>
      rw [List.cons_append, readToken, readMagnitude_magnitude hmagnitude hrest]
      rfl

theorem readToken_word {name : List Char}
    (h : name ∈ ["null".toList, "true".toList, "false".toList]) (rest : List Char) :
    readToken (name ++ rest) = some (.word name, rest) := by
  have hnames : name = "null".toList ∨ name = "true".toList ∨ name = "false".toList := by
    simpa using h
  rcases hnames with rfl | rfl | rfl
  · rfl
  · rfl
  · rfl

end Tokens

end LayeredConfig.Json
