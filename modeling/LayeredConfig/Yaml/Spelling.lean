/-
What plain scalars spell.  The words for nothing, for truth values and for
numbers are those of the core schema; everything else is text.
-/
import LayeredConfig.Text.Numeral
import LayeredConfig.Yaml.QuotedScalar
import LayeredConfig.Yaml.Value

namespace LayeredConfig.Yaml.Spelling

/-- Does a text spell nothing? -/
def isNull (s : String) : Bool :=
  s == "null" || s == "Null" || s == "NULL" || s == "~"

def bool? (s : String) : Option Bool :=
  if s = "true" ∨ s = "True" ∨ s = "TRUE" then some true
  else if s = "false" ∨ s = "False" ∨ s = "FALSE" then some false
  else none

/-- A text without the sign in front of it. -/
def dropSign : List Char → List Char
  | '+' :: rest => rest
  | '-' :: rest => rest
  | cs => cs

/-- Does a text start with a sign? -/
def startsWithSign : List Char → Bool
  | '+' :: _ => true
  | '-' :: _ => true
  | _ => false

/-- Digits with a zero in front of others: a text, and no number. -/
def hasSpareZero (cs : List Char) : Bool :=
  match dropSign cs with
  | '0' :: c :: rest => (c :: rest).all Char.isDigit
  | _ => false

/-- The value of digits in a base up to sixteen. -/
def digits? (base : Nat) (cs : List Char) : Option Nat :=
  if cs.isEmpty then none
  else
    cs.foldlM (fun n c =>
      match Text.hexValue? c with
      | some d => if d < base then some (n * base + d) else none
      | none => none) 0

/-- The base that a text names, and the digits behind its name. -/
def base? : List Char → Option (Nat × List Char)
  | '0' :: 'x' :: rest => some (16, rest)
  | '0' :: 'o' :: rest => some (8, rest)
  | '0' :: 'b' :: rest => some (2, rest)
  | _ => none

/-- The size of an integer without a sign. -/
def magnitude? (cs : List Char) : Option Nat :=
  match base? cs with
  | some (base, rest) => digits? base rest
  | none => if hasSpareZero cs then none else digits? 10 cs

/-- The integer that a text spells, of any size. -/
def integer? (cs : List Char) : Option Int :=
  match cs with
  | '-' :: rest => (magnitude? rest).map fun n => -(n : Int)
  | '+' :: rest => (magnitude? rest).map Int.ofNat
  | _ => (magnitude? cs).map Int.ofNat

/-- Is an integer in the range of 64-bit words, with a sign if it is
negative? -/
def isWord (n : Int) : Bool := -Text.maxSignedWord - 1 ≤ n && n ≤ Text.maxWord

/-- Is an integer in the range of 128-bit words, with a sign if it is
negative?  One that is too large even for that is read as a real number. -/
def isDoubleWord (n : Int) : Bool :=
  -170141183460469231731687303715884105728 ≤ n && n ≤ 340282366920938463463374607431768211455

/-- The decimal number that a text spells without a sign, as its digits and
the power of ten that they are multiplied by. -/
def decimal? (cs : List Char) : Option (Nat × Int) := do
  let whole := cs.takeWhile Char.isDigit
  let rest := cs.dropWhile Char.isDigit
  let (fraction, rest) := match rest with
    | '.' :: rest => (rest.takeWhile Char.isDigit, rest.dropWhile Char.isDigit)
    | rest => ([], rest)
  if whole.isEmpty && fraction.isEmpty then none
  let exponent ← match rest with
    | [] => some 0
    | c :: rest =>
        if c = 'e' || c = 'E' then
          match rest with
          | '-' :: rest => (Text.natural? rest).map fun n => -(n : Int)
          | '+' :: rest => (Text.natural? rest).map Int.ofNat
          | rest => (Text.natural? rest).map Int.ofNat
        else none
  return (Text.digitsValue 10 0 Text.decimalDigit (whole ++ fraction),
    exponent - fraction.length)

/-- The real number next to a decimal one, if it is finite.  Powers of ten far
outside the range are not computed. -/
def nearest? (digits : Nat) (power : Int) : Option Float :=
  let size := (Nat.toDigits 10 digits).length + power
  if digits = 0 || size < -400 then some 0
  else if size > 400 then none
  else
    let x := if power < 0 then Float.ofScientific digits true (-power).toNat
      else Float.ofScientific digits false power.toNat
    if x.isFinite then some x else none

/-- The code of a real number; the two zeros have one code. -/
def code (x : Float) : UInt64 := if x == 0 then (0 : Float).toBits else x.toBits

/-- The code of the value that is no number. -/
def notANumber : UInt64 := 0x7FF8000000000000

def infinity : UInt64 := 0x7FF0000000000000

def negativeInfinity : UInt64 := 0xFFF0000000000000

/-- The real number that a text spells, by its code. -/
def real? (s : String) : Option UInt64 :=
  let cs := s.toList
  let unsigned := match cs with
    | '+' :: rest => rest
    | cs => cs
  if cs.head? == some '+' && startsWithSign unsigned then none
  else
    let name := String.ofList unsigned
    if name = ".inf" ∨ name = ".Inf" ∨ name = ".INF" then some infinity
    else if s = "-.inf" ∨ s = "-.Inf" ∨ s = "-.INF" then some negativeInfinity
    else if s = ".nan" ∨ s = ".NaN" ∨ s = ".NAN" then some notANumber
    else
      match unsigned with
      | '-' :: rest =>
          (decimal? rest).bind fun (digits, power) => (nearest? digits power).map fun x => code (-x)
      | rest => (decimal? rest).bind fun (digits, power) => (nearest? digits power).map code

/-- The integer that a text spells, if it spells one that is not so large that
it is read as a real number.  An integer that does not fit a 64-bit word is no
value at all, and the outer `some` says so. -/
def word? (s : String) : Option (Option Int) :=
  match integer? s.toList with
  | some n => if isWord n then some (some n) else if isDoubleWord n then some none else none
  | none => none

/-- The value that a plain scalar spells, if its number is not out of range. -/
def plain? (s : String) : Option Value :=
  if s.isEmpty || isNull s then some .null
  else
    match bool? s with
    | some b => some (.bool b)
    | none =>
        match word? s with
        | some n => n.map .integer
        | none =>
            if hasSpareZero s.toList then some (.text s)
            else some (((real? s).map Value.real).getD (.text s))

/-- The value of a scalar that is not plain or has a tag of the core schema.
A tag that is none of these leaves a text. -/
def core? (tag : List Char) (s : String) : Option Value :=
  if tag = "tag:yaml.org,2002:bool".toList then (bool? s).map .bool
  else if tag = "tag:yaml.org,2002:int".toList then (word? s).bind fun n => n.map .integer
  else if tag = "tag:yaml.org,2002:float".toList then (real? s).map .real
  else if tag = "tag:yaml.org,2002:null".toList then if isNull s then some .null else none
  else some (.text s)

end LayeredConfig.Yaml.Spelling
