/-
Key patterns of the server: a star stands for any bytes, a question mark for
one byte, and every other byte for itself.
-/
namespace LayeredConfig.Server

/-- Does one of the tails that start here match?  The last tail is the empty
one. -/
def anyFrom (tails : List Bool) : List Bool :=
  tails.foldr (fun here found => (here || found.headD false) :: found) []

/-- For every tail of a text, the longest first, whether a pattern matches
the whole of it. -/
def tailMatches (text : List UInt8) : (pattern : List UInt8) → List Bool
  | [] => text.map (fun _ => false) ++ [true]
  | p :: pattern =>
      let later := tailMatches text pattern
      if p = 0x2A then anyFrom later
      else if p = 0x3F then later.tail ++ [false]
      else List.zipWith (fun b found => b == p && found) text later.tail ++ [false]

/-- Does a pattern match the whole of a text? -/
def wildcardCovers (pattern text : String) : Bool :=
  (tailMatches text.toUTF8.toList pattern.toUTF8.toList).headD false

end LayeredConfig.Server
