/-
Blank characters: the twenty-five code points with the White_Space property.
Cutting them off both ends of a text, and the test on one character that the
scanners of templates and references use.
-/
namespace LayeredConfig.Text

/-- The White_Space property.  It holds five controls, the space, and the
separators outside ASCII; U+200B, the zero-width space, is not one of them. -/
def isBlank (c : Char) : Bool :=
  let n := c.toNat
  (9 ≤ n && n ≤ 13) || n == 0x20 || n == 0x85 || n == 0xA0 || n == 0x1680 ||
    (0x2000 ≤ n && n ≤ 0x200A) || n == 0x2028 || n == 0x2029 || n == 0x202F ||
    n == 0x205F || n == 0x3000

/-- Cut the blanks off the end. -/
def trimEnd (cs : List Char) : List Char :=
  (cs.reverse.dropWhile isBlank).reverse

/-- Cut the blanks off both ends. -/
def trim (cs : List Char) : List Char :=
  trimEnd (cs.dropWhile isBlank)

example : isBlank '\u200B' = false := by decide
example : trim "\u3000 a b\t".toList = "a b".toList := by decide

end LayeredConfig.Text
