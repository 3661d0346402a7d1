/-
Bytes as text for a message: what is no character in UTF-8 shows as the
replacement character, one for each longest beginning of a character.
-/
namespace LayeredConfig.Text

/-- The value that a first byte contributes, and the ranges that the bytes
after it have to lie in, if a character can start with it. -/
def leadByte? (b : UInt8) : Option (Nat × List (UInt8 × UInt8)) :=
  let other : UInt8 × UInt8 := (0x80, 0xBF)
  if b < 0x80 then some (b.toNat, [])
  else if b < 0xC2 then none
  else if b < 0xE0 then some (b.toNat - 0xC0, [other])
  else if b = 0xE0 then some (0, [(0xA0, 0xBF), other])
  else if b = 0xED then some (0xD, [(0x80, 0x9F), other])
  else if b < 0xF0 then some (b.toNat - 0xE0, [other, other])
  else if b = 0xF0 then some (0, [(0x90, 0xBF), other, other])
  else if b < 0xF4 then some (b.toNat - 0xF0, [other, other, other])
  else if b = 0xF4 then some (4, [(0x80, 0x8F), other, other])
  else none

/-- Take bytes as long as they fit: the value, if all of them do, and what is
left. -/
def takeTail (value : Nat) : List (UInt8 × UInt8) → List UInt8 → Option Nat × List UInt8
  | [], bytes => (some value, bytes)
  | _ :: _, [] => (none, [])
  | (low, high) :: ranges, b :: bytes =>
      if low ≤ b ∧ b ≤ high then takeTail (value * 64 + (b.toNat - 0x80)) ranges bytes
      else (none, b :: bytes)

theorem takeTail_length_le (value : Nat) (ranges : List (UInt8 × UInt8)) (bytes : List UInt8) :
    (takeTail value ranges bytes).2.length ≤ bytes.length := by
  fun_induction takeTail value ranges bytes with
  | case1 => simp
  | case2 => simp
  | case3 _ _ _ _ _ _ _ ih => simp; omega
  | case4 => simp

def replacement : Char := '\uFFFD'

/-- The characters that bytes show as. -/
def lossyChars : List UInt8 → List Char
  | [] => []
  | b :: bytes =>
      match leadByte? b with
      | none => replacement :: lossyChars bytes
      | some (value, ranges) =>
          ((takeTail value ranges bytes).1.map Char.ofNat).getD replacement ::
            lossyChars (takeTail value ranges bytes).2
termination_by bytes => bytes.length
decreasing_by
  · simp
  · have := takeTail_length_le value ranges bytes
    simp; omega

/-- The text that bytes show as; text shows as itself. -/
def lossy (bytes : ByteArray) : String :=
  match String.fromUTF8? bytes with
  | some text => text
  | none => String.ofList (lossyChars bytes.toList)

example : lossyChars [0x61, 0xE6, 0x97, 0x62] = ['a', '\uFFFD', 'b'] := by
  simp [lossyChars, leadByte?, takeTail, replacement]

end LayeredConfig.Text
