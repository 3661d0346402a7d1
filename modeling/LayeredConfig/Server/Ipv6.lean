/-
The text form of IPv6 addresses: up to eight groups of hexadecimal digits, one
run of zero groups left out as `::`, and perhaps an IPv4 address in place of
the last two groups.
-/
import LayeredConfig.Text.HexDigit
import LayeredConfig.Text.Numeral
import LayeredConfig.Text.Pieces

namespace LayeredConfig.Server

/-- Is this a group: one to four digits? -/
def isGroup (cs : List Char) : Bool :=
  !cs.isEmpty && cs.length ≤ 4 && cs.all Text.isHexDigit

/-- Is this a number below 256, without leading zeros? -/
def isOctet (cs : List Char) : Bool :=
  match cs with
  | ['0'] => true
  | '0' :: _ => false
  | _ => cs.length ≤ 3 && (Text.natural? cs).any (· ≤ 255)

def isIpv4 (cs : List Char) : Bool :=
  let octets := Text.pieces '.' cs
  octets.length == 4 && octets.all isOctet

/-- How many groups pieces between colons stand for; an IPv4 address may be
the last one if `tail` says so. -/
def groupCount? (tail : Bool) : List (List Char) → Option Nat
  | [] => some 0
  | [piece] =>
      if isGroup piece then some 1 else if tail && isIpv4 piece then some 2 else none
  | piece :: rest => if isGroup piece then (groupCount? tail rest).map (· + 1) else none

/-- How many groups a text between `::` or the ends stands for. -/
def sideCount? (tail : Bool) (cs : List Char) : Option Nat :=
  if cs.isEmpty then some 0 else groupCount? tail (Text.pieces ':' cs)

/-- A text cut at the first `::`. -/
def cutAtGap? : List Char → Option (List Char × List Char)
  | ':' :: ':' :: rest => some ([], rest)
  | c :: rest => (cutAtGap? rest).map fun (before, after) => (c :: before, after)
  | [] => none

def isIpv6 (cs : List Char) : Bool :=
  match cutAtGap? cs with
  | none => sideCount? true cs == some 8
  | some (before, after) =>
      match sideCount? false before, sideCount? true after with
      | some n, some m => n + m < 8
      | _, _ => false

example : isIpv6 "::1".toList = true := by decide
example : isIpv6 "1:2:3:4:5:6:7:8".toList = true := by decide
example : isIpv6 "::ffff:10.0.0.1".toList = true := by decide
example : isIpv6 "1::2::3".toList = false := by decide

end LayeredConfig.Server
