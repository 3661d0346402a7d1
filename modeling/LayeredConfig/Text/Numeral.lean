/-
Whole numbers in decimal, read strictly: digits are the ten of ASCII, there is
at least one of them, and nothing else may stand around them.
-/
namespace LayeredConfig.Text

/-- Largest number of an unsigned 64-bit word. -/
def maxWord : Nat := 18446744073709551615

/-- The value of digits read from the left, in front of which `value` stands. -/
def digitsValue (base value : Nat) (digit : Char → Nat) (cs : List Char) : Nat :=
  cs.foldl (fun acc c => acc * base + digit c) value

def decimalDigit (c : Char) : Nat := c.toNat - '0'.toNat

/-- A number without a sign. -/
def natural? (cs : List Char) : Option Nat :=
  if !cs.isEmpty && cs.all Char.isDigit then some (digitsValue 10 0 decimalDigit cs) else none

/-- An unsigned number that fits a 64-bit word; one plus sign may precede it. -/
def word? (cs : List Char) : Option Nat :=
  let digits := match cs with
    | '+' :: rest => rest
    | _ => cs
  match natural? digits with
  | some n => if n ≤ maxWord then some n else none
  | none => none

/-- Largest number of a signed 64-bit word. -/
def maxSignedWord : Int := 9223372036854775807

/-- A signed number that fits a 64-bit word; one sign may precede it. -/
def signedWord? (cs : List Char) : Option Int :=
  let read := match cs with
    | '-' :: rest => (natural? rest).map fun n => -(n : Int)
    | '+' :: rest => (natural? rest).map Int.ofNat
    | _ => (natural? cs).map Int.ofNat
  match read with
  | some n => if -maxSignedWord - 1 ≤ n ∧ n ≤ maxSignedWord then some n else none
  | none => none

example : word? "+18446744073709551615".toList = some maxWord := by decide
example : word? "18446744073709551616".toList = none := by decide
example : signedWord? "-0".toList = some 0 := by decide

end LayeredConfig.Text
