/-
Hexadecimal digits: the ten decimal ones of ASCII, and six letters in either case.
-/
namespace LayeredConfig.Text

/-- The value of a hexadecimal digit. -/
def hexValue? (c : Char) : Option Nat :=
  let n := c.toNat
  if 0x30 ≤ n ∧ n ≤ 0x39 then some (n - 0x30)
  else if 0x41 ≤ n ∧ n ≤ 0x46 then some (n - 0x41 + 10)
  else if 0x61 ≤ n ∧ n ≤ 0x66 then some (n - 0x61 + 10)
  else none

/-- Is this a hexadecimal digit? -/
def isHexDigit (c : Char) : Bool := (hexValue? c).isSome

example : hexValue? 'e' = some 14 := by decide
example : isHexDigit 'g' = false := by decide

end LayeredConfig.Text
