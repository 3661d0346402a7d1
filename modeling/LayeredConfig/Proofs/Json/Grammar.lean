/-
The grammar of JSON: which texts spell which values.  It says what a text is
made of, with blanks around every token and every escape that a string may have,
and not how a text is read.  A string whose escapes name half of a surrogate
pair has no text, so it spells nothing here.
-/
import LayeredConfig.Json

namespace LayeredConfig.Json

/-- Any number of blanks. -/
def IsGap (cs : List Char) : Prop := ∀ c ∈ cs, c ∈ [' ', '\t', '\n', '\r']

section Numbers

def IsDigits (cs : List Char) : Prop := cs ≠ [] ∧ ∀ c ∈ cs, c.isDigit = true

/-- The whole part of a number has no spare zero in front. -/
inductive IsWhole : List Char → Prop
  | zero : IsWhole ['0']
  | digits {c : Char} {cs : List Char} : c ≠ '0' → IsDigits (c :: cs) → IsWhole (c :: cs)

inductive IsFraction : List Char → Prop
  | absent : IsFraction []
  | digits {cs : List Char} : IsDigits cs → IsFraction ('.' :: cs)

inductive IsExponent : List Char → Prop
  | absent : IsExponent []
  | digits {mark : Char} {sign cs : List Char} : mark ∈ ['e', 'E'] → sign ∈ [[], ['+'], ['-']] →
      IsDigits cs → IsExponent (mark :: (sign ++ cs))

/-- A number without its sign. -/
inductive IsMagnitude : List Char → Prop
  | parts {whole fraction exponent : List Char} : IsWhole whole → IsFraction fraction →
      IsExponent exponent → IsMagnitude (whole ++ (fraction ++ exponent))

inductive IsNumber : List Char → Prop
  | positive {cs : List Char} : IsMagnitude cs → IsNumber cs
  | negative {cs : List Char} : IsMagnitude cs → IsNumber ('-' :: cs)

end Numbers

section Strings

/-- The escapes of one letter, with the characters that they stand for. -/
def letterEscapes : List (Char × Char) :=
  [('"', '"'), ('\\', '\\'), ('/', '/'), ('b', '\x08'), ('f', '\x0c'), ('n', '\n'), ('r', '\r'),
    ('t', '\t')]

/-- The value of a hexadecimal digit. -/
inductive IsHexDigit : Char → Nat → Prop
  | decimal {n : Nat} : n < 10 → IsHexDigit (Char.ofNat ('0'.toNat + n)) n
  | small {n : Nat} : n < 6 → IsHexDigit (Char.ofNat ('a'.toNat + n)) (10 + n)
  | capital {n : Nat} : n < 6 → IsHexDigit (Char.ofNat ('A'.toNat + n)) (10 + n)

/-- Four hexadecimal digits name a 16-bit unit. -/
inductive NamesUnit : List Char → Nat → Prop
  | digits {a b c d : Char} {k l m n : Nat} : IsHexDigit a k → IsHexDigit b l → IsHexDigit c m →
      IsHexDigit d n → NamesUnit [a, b, c, d] (k * 0x1000 + l * 0x100 + m * 0x10 + n)

/-- What stands between the quotes of a string, and the characters that it
spells.  Beyond 16 bits an escaped character takes two units. -/
inductive SpellsText : List Char → List Char → Prop
  | nil : SpellsText [] []
  | plain {c : Char} {cs text : List Char} : 0x20 ≤ c.toNat → c ≠ '"' → c ≠ '\\' →
      SpellsText cs text → SpellsText (c :: cs) (c :: text)
  | letter {escape c : Char} {cs text : List Char} : (escape, c) ∈ letterEscapes →
      SpellsText cs text → SpellsText ('\\' :: escape :: cs) (c :: text)
  | unit {digits cs text : List Char} {c : Char} : NamesUnit digits c.toNat →
      SpellsText cs text → SpellsText ('\\' :: 'u' :: (digits ++ cs)) (c :: text)
  | pair {high low cs text : List Char} {m n : Nat} {c : Char} : m < 0x400 → n < 0x400 →
      NamesUnit high (0xD800 + m) → NamesUnit low (0xDC00 + n) →
      c.toNat = 0x10000 + m * 0x400 + n → SpellsText cs text →
        SpellsText ('\\' :: 'u' :: (high ++ '\\' :: 'u' :: (low ++ cs))) (c :: text)

inductive SpellsString : List Char → String → Prop
  | quoted {cs : List Char} {text : String} : SpellsText cs text.toList →
      SpellsString ('"' :: (cs ++ ['"'])) text

end Strings

mutual

/-- What a text spells: a value, with any blanks around it. -/
inductive Spells : List Char → Json → Prop
  | padded {before cs after : List Char} {value : Json} : IsGap before → SpellsBare cs value →
      IsGap after → Spells (before ++ (cs ++ after)) value

/-- What a text without blanks around it spells. -/
inductive SpellsBare : List Char → Json → Prop
  | null : SpellsBare "null".toList null
  | true : SpellsBare "true".toList (bool Bool.true)
  | false : SpellsBare "false".toList (bool Bool.false)
  | number {cs : List Char} : IsNumber cs → SpellsBare cs (number cs)
  | string {cs : List Char} {text : String} : SpellsString cs text →
      SpellsBare cs (string (some text))
  | emptyArray {gap : List Char} : IsGap gap → SpellsBare ('[' :: (gap ++ [']'])) (array [])
  | array {cs : List Char} {items : List Json} : SpellsItems cs items →
      SpellsBare ('[' :: (cs ++ [']'])) (array items)
  | emptyObject {gap : List Char} : IsGap gap → SpellsBare ('{' :: (gap ++ ['}'])) (object [])
  | object {cs : List Char} {members : List (Option String × Json)} : SpellsMembers cs members →
      SpellsBare ('{' :: (cs ++ ['}'])) (object members)

/-- One item or more, with commas between them. -/
inductive SpellsItems : List Char → List Json → Prop
  | last {cs : List Char} {item : Json} : Spells cs item → SpellsItems cs [item]
  | more {cs rest : List Char} {item : Json} {items : List Json} : Spells cs item →
      SpellsItems rest items → SpellsItems (cs ++ ',' :: rest) (item :: items)

/-- A name in quotes with any blanks around it, a colon and a value. -/
inductive SpellsMember : List Char → Option String × Json → Prop
  | named {before cs after rest : List Char} {name : String} {value : Json} : IsGap before →
      SpellsString cs name → IsGap after → Spells rest value →
        SpellsMember (before ++ (cs ++ (after ++ ':' :: rest))) (some name, value)

/-- One member or more, with commas between them. -/
inductive SpellsMembers : List Char → List (Option String × Json) → Prop
  | last {cs : List Char} {member : Option String × Json} : SpellsMember cs member →
      SpellsMembers cs [member]
  | more {cs rest : List Char} {member : Option String × Json}
      {members : List (Option String × Json)} : SpellsMember cs member →
        SpellsMembers rest members → SpellsMembers (cs ++ ',' :: rest) (member :: members)

end

end LayeredConfig.Json
