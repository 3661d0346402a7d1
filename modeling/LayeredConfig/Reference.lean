/-
References to other keys, as they stand between the braces of `${...}`: an
entry of a list (`key/index/n`), a field of a hash (`key/field`), or a scalar
(`key`).
-/
import LayeredConfig.Text.DecimalDigit
import LayeredConfig.Text.Numeral

namespace LayeredConfig

inductive Reference where
  | listIndex (key : String) (index : Int)
  | hashField (key field : String)
  | scalar (key : String)
deriving DecidableEq, Repr

namespace Reference

/-- Does a text have the shape of a number, with digits of any script and
perhaps a minus? -/
def looksLikeNumber (cs : List Char) : Bool :=
  let digits := match cs with
    | '-' :: rest => rest
    | _ => cs
  !digits.isEmpty && digits.all Text.isDecimalDigit

/-- The key and the number of a text that ends in `/index/` and a number.
A key is not empty and stays on one line. -/
def indexParts? (cs : List Char) : Option (List Char × List Char) :=
  let back := cs.reverse
  let number := (back.takeWhile (· != '/')).reverse
  match back.dropWhile (· != '/') with
  | '/' :: 'x' :: 'e' :: 'd' :: 'n' :: 'i' :: '/' :: key =>
      if !key.isEmpty && !key.contains '\n' && looksLikeNumber number then
        some (key.reverse, number)
      else none
  | _ => none

/-- A text cut at its first slash, if it has one. -/
def splitAtSlash? (cs : List Char) : Option (List Char × List Char) :=
  match cs.dropWhile (· != '/') with
  | _ :: rest => some (cs.takeWhile (· != '/'), rest)
  | [] => none

/-- Read a reference.  What looks like a list index is one or nothing: a number
that is out of range or not in ASCII makes the whole text no reference. -/
def parse? (inner : String) : Option Reference :=
  match indexParts? inner.toList with
  | some (key, number) => (Text.signedWord? number).map (listIndex (String.ofList key))
  | none =>
      match splitAtSlash? inner.toList with
      | some (key, field) =>
          if key.isEmpty || field.isEmpty then none
          else some (hashField (String.ofList key) (String.ofList field))
      | none => some (scalar inner)

def render : Reference → String
  | listIndex key index => key ++ "/index/" ++ toString index
  | hashField key field => key ++ "/" ++ field
  | scalar key => key

example : parse? "a/index/-00" = some (.listIndex "a" 0) := by decide +kernel
example : parse? "/index/1" = none := by decide +kernel
example : parse? "a/b/c" = some (.hashField "a" "b/c") := by decide +kernel

end Reference

end LayeredConfig
