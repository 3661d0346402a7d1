/-
What numbers in decimal stand for, and that a number is read back from the
digits that it is written with.
-/
import LayeredConfig.Text.DecimalDigit
import LayeredConfig.Text.Numeral

namespace LayeredConfig.Text

/-- Digits of any script, and perhaps a minus in front of them. -/
def IsNumeral (cs : List Char) : Prop :=
  ∃ digits, (cs = digits ∨ cs = '-' :: digits) ∧ digits ≠ [] ∧
    ∀ c ∈ digits, isDecimalDigit c = true

/-- The number that digits of ASCII stand for, with perhaps a minus in front of
them. -/
inductive Denotes : List Char → Int → Prop
  | natural {digits : List Char} : digits ≠ [] → (∀ c ∈ digits, c.isDigit = true) →
      Denotes digits (Nat.ofDigitChars 10 digits 0)
  | negative {digits : List Char} : digits ≠ [] → (∀ c ∈ digits, c.isDigit = true) →
      Denotes ('-' :: digits) (-(Nat.ofDigitChars 10 digits 0 : Nat))

/-- The number that digits of ASCII stand for, with perhaps a plus in front of
them, if it is in the range of unsigned 64-bit words. -/
inductive DenotesWord : List Char → Nat → Prop
  | bare {digits : List Char} : digits ≠ [] → (∀ c ∈ digits, c.isDigit = true) →
      Nat.ofDigitChars 10 digits 0 ≤ 0xffffffffffffffff →
      DenotesWord digits (Nat.ofDigitChars 10 digits 0)
  | plus {digits : List Char} : digits ≠ [] → (∀ c ∈ digits, c.isDigit = true) →
      Nat.ofDigitChars 10 digits 0 ≤ 0xffffffffffffffff →
      DenotesWord ('+' :: digits) (Nat.ofDigitChars 10 digits 0)

/-- Is a number in the range of signed 64-bit words? -/
def FitsSignedWord (n : Int) : Prop :=
  -0x8000000000000000 ≤ n ∧ n ≤ 0x7fffffffffffffff

instance (n : Int) : Decidable (FitsSignedWord n) := inferInstanceAs (Decidable (_ ∧ _))

section Digits

variable {c : Char}

theorem isDecimalDigit_of_isDigit (h : c.isDigit = true) : isDecimalDigit c = true := by
  have hrange := Char.isDigit_iff_toNat.1 h
  have hfirst : (0x30, 0x39) ∈ decimalDigitRuns := List.mem_cons_self
  exact List.any_eq_true.2 ⟨_, hfirst, by simpa using hrange⟩

/-- Only the first run of digits lies in ASCII. -/
theorem isDigit_of_isDecimalDigit (h : isDecimalDigit c = true) (hascii : c.toNat < 128) :
    c.isDigit = true := by
  obtain ⟨run, hrun, hbounds⟩ := List.any_eq_true.1 h
  have hruns : ∀ run ∈ decimalDigitRuns, run = (0x30, 0x39) ∨ 128 ≤ run.1 := by decide
  simp only [Bool.and_eq_true, decide_eq_true_eq] at hbounds
  rcases hruns run hrun with rfl | hbeyond
  · exact Char.isDigit_iff_toNat.2 hbounds
  · omega

end Digits

section Reading

variable {cs : List Char} {n : Int}

theorem natural?_eq_some_iff {n : Nat} :
    natural? cs = some n ↔
      (cs ≠ [] ∧ ∀ c ∈ cs, c.isDigit = true) ∧ n = Nat.ofDigitChars 10 cs 0 := by
  have hvalue : digitsValue 10 0 decimalDigit cs = Nat.ofDigitChars 10 cs 0 := by
    simp only [digitsValue, decimalDigit, Nat.ofDigitChars_eq_foldl, Nat.mul_comm]
  have hcheck : (!cs.isEmpty && cs.all Char.isDigit) = true ↔
      cs ≠ [] ∧ ∀ c ∈ cs, c.isDigit = true := by simp
  rw [natural?, hvalue]
  by_cases hdigits : (!cs.isEmpty && cs.all Char.isDigit) = true
  · rw [if_pos hdigits, and_iff_right (hcheck.1 hdigits), Option.some.injEq, eq_comm]
  · rw [if_neg hdigits]
    constructor
    · intro h
      contradiction
    · rintro ⟨h, _⟩
      exact absurd (hcheck.2 h) hdigits

theorem denotes_minus_iff {digits : List Char} :
    Denotes ('-' :: digits) n ↔ ((natural? digits).map fun m : Nat => -(m : Int)) = some n := by
  rw [Option.map_eq_some_iff]
  constructor
  · intro h
    rcases h with ⟨_, hdigits⟩ | ⟨hne, hdigits⟩
    · exact absurd (hdigits '-' List.mem_cons_self) (by decide)
    · exact ⟨_, natural?_eq_some_iff.2 ⟨⟨hne, hdigits⟩, rfl⟩, rfl⟩
  · rintro ⟨m, hread, rfl⟩
    obtain ⟨⟨hne, hdigits⟩, rfl⟩ := natural?_eq_some_iff.1 hread
    exact .negative hne hdigits

theorem denotes_iff_of_head (hsign : cs.head? ≠ some '-') :
    Denotes cs n ↔ (natural? cs).map Int.ofNat = some n := by
  rw [Option.map_eq_some_iff]
  constructor
  · intro h
    rcases h with ⟨hne, hdigits⟩ | _
    · exact ⟨_, natural?_eq_some_iff.2 ⟨⟨hne, hdigits⟩, rfl⟩, rfl⟩
    · exact absurd rfl hsign
  · rintro ⟨m, hread, rfl⟩
    obtain ⟨⟨hne, hdigits⟩, rfl⟩ := natural?_eq_some_iff.1 hread
    exact .natural hne hdigits

theorem Denotes.unique {m : Int} (h : Denotes cs n) (h' : Denotes cs m) : n = m := by
  by_cases hminus : cs.head? = some '-'
  · obtain ⟨digits, rfl⟩ := List.head?_eq_some_iff.1 hminus
    rw [denotes_minus_iff] at h h'
    exact Option.some.inj (h.symm.trans h')
  · rw [denotes_iff_of_head hminus] at h h'
    exact Option.some.inj (h.symm.trans h')

theorem Denotes.isAscii (h : Denotes cs n) : ∀ c ∈ cs, c.toNat < 128 := by
  have hascii : ∀ {c : Char}, c.isDigit = true → c.toNat < 128 := by
    intro c hc
    exact Nat.lt_of_le_of_lt (Char.isDigit_iff_toNat.1 hc).2 (by decide)
  rcases h with ⟨_, hdigits⟩ | ⟨_, hdigits⟩
  · exact fun c hc => hascii (hdigits c hc)
  · exact List.forall_mem_cons.2 ⟨by decide, fun c hc => hascii (hdigits c hc)⟩

/-- A numeral has a value unless some digit of it is not one of ASCII. -/
theorem IsNumeral.denotes_or (h : IsNumeral cs) :
    (∃ n, Denotes cs n) ∨ ∃ c ∈ cs, 128 ≤ c.toNat := by
  obtain ⟨digits, hcs, hne, hdecimal⟩ := h
  by_cases hdigits : ∀ c ∈ digits, c.isDigit = true
  · rcases hcs with rfl | rfl
    · exact Or.inl ⟨_, .natural hne hdigits⟩
    · exact Or.inl ⟨_, .negative hne hdigits⟩
  · simp only [Classical.not_forall] at hdigits
    obtain ⟨c, hc, hother⟩ := hdigits
    have hmem : c ∈ cs := by
      rcases hcs with rfl | rfl
      · exact hc
      · exact List.mem_cons_of_mem _ hc
    refine Or.inr ⟨c, hmem, Nat.le_of_not_lt fun hascii => ?_⟩
    exact hother (isDigit_of_isDecimalDigit (hdecimal c hc) hascii)

theorem Denotes.isNumeral (h : Denotes cs n) : IsNumeral cs := by
  rcases h with ⟨hne, hdigits⟩ | ⟨hne, hdigits⟩
  · exact ⟨cs, Or.inl rfl, hne, fun c hc => isDecimalDigit_of_isDigit (hdigits c hc)⟩
  · exact ⟨_, Or.inr rfl, hne, fun c hc => isDecimalDigit_of_isDigit (hdigits c hc)⟩

theorem word?_plus (digits : List Char) :
    word? ('+' :: digits) = (natural? digits).filter fun n => n ≤ maxWord := by
  rw [word?]
  cases natural? digits with
  | none => rfl
  | some n => simp [Option.filter]

theorem word?_of_head (hplus : cs.head? ≠ some '+') :
    word? cs = (natural? cs).filter fun n => n ≤ maxWord := by
  rw [word?]
  · cases natural? cs with
    | none => rfl
    | some n => simp [Option.filter]
  · rintro rest rfl
    exact hplus rfl

theorem word?_eq_some_iff {n : Nat} : word? cs = some n ↔ DenotesWord cs n := by
  by_cases hplus : cs.head? = some '+'
  · obtain ⟨digits, rfl⟩ := List.head?_eq_some_iff.1 hplus
    rw [word?_plus, Option.filter_eq_some_iff, natural?_eq_some_iff, decide_eq_true_iff]
    constructor
    · rintro ⟨⟨⟨hne, hdigits⟩, rfl⟩, hword⟩
      exact .plus hne hdigits hword
    · intro h
      rcases h with ⟨_, hdigits, _⟩ | ⟨hne, hdigits, hword⟩
      · exact absurd (hdigits '+' List.mem_cons_self) (by decide)
      · exact ⟨⟨⟨hne, hdigits⟩, rfl⟩, hword⟩
  · rw [word?_of_head hplus, Option.filter_eq_some_iff, natural?_eq_some_iff, decide_eq_true_iff]
    constructor
    · rintro ⟨⟨⟨hne, hdigits⟩, rfl⟩, hword⟩
      exact .bare hne hdigits hword
    · intro h
      rcases h with ⟨hne, hdigits, hword⟩ | _
      · exact ⟨⟨⟨hne, hdigits⟩, rfl⟩, hword⟩
      · exact absurd rfl hplus

theorem fitsSignedWord_iff :
    FitsSignedWord n ↔ -maxSignedWord - 1 ≤ n ∧ n ≤ maxSignedWord := by
  unfold FitsSignedWord maxSignedWord
  omega

theorem signedWord?_minus (digits : List Char) :
    signedWord? ('-' :: digits) =
      ((natural? digits).map fun m : Nat => -(m : Int)).filter fun n => FitsSignedWord n := by
  simp only [signedWord?, ← fitsSignedWord_iff]
  rcases natural? digits with _ | m
  · rfl
  · simp [Option.filter]

theorem signedWord?_of_head (hminus : cs.head? ≠ some '-') (hplus : cs.head? ≠ some '+') :
    signedWord? cs = ((natural? cs).map Int.ofNat).filter fun n => FitsSignedWord n := by
  simp only [signedWord?, ← fitsSignedWord_iff]
  -- the signs of the inner match are excluded, and what is left is read as it is
  split <;> rename_i heq <;> split at heq
  · exact absurd rfl hminus
  · exact absurd rfl hplus
  · rw [heq]
    simp [Option.filter]
  · exact absurd rfl hminus
  · exact absurd rfl hplus
  · rw [heq]
    rfl

theorem signedWord?_eq_some_iff (hplus : cs.head? ≠ some '+') :
    signedWord? cs = some n ↔ Denotes cs n ∧ FitsSignedWord n := by
  by_cases hminus : cs.head? = some '-'
  · obtain ⟨digits, rfl⟩ := List.head?_eq_some_iff.1 hminus
    rw [signedWord?_minus, Option.filter_eq_some_iff, denotes_minus_iff, decide_eq_true_iff]
  · rw [signedWord?_of_head hminus hplus, Option.filter_eq_some_iff, denotes_iff_of_head hminus,
      decide_eq_true_iff]

/-- A number is written in digits that stand for it. -/
theorem denotes_toString (n : Int) : Denotes (toString n).toList n := by
  have hdigits : ∀ m : Nat, ∀ c ∈ Nat.toDigits 10 m, c.isDigit = true := fun m c hc =>
    Nat.isDigit_of_mem_toDigits (by decide) (by decide) hc
  rw [Int.toString_eq_repr]
  rcases n with m | m
  · have hnatural := Denotes.natural Nat.toDigits_ne_nil (hdigits m)
    rw [Nat.ofDigitChars_ten_toDigits] at hnatural
    rw [Int.repr, Nat.toList_repr]
    exact hnatural
  · have hnegative := Denotes.negative Nat.toDigits_ne_nil (hdigits (m + 1))
    rw [Nat.ofDigitChars_ten_toDigits] at hnegative
    rw [Int.repr, String.toList_append, Nat.toList_repr]
    exact hnegative

end Reading

end LayeredConfig.Text
