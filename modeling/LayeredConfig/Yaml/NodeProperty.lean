/-
Names that nodes carry or are referred to by: anchors and aliases, tags, and
the directives that say what tags mean.
-/
import LayeredConfig.Yaml.BlockScalar
import LayeredConfig.Yaml.QuotedScalar
import LayeredConfig.Yaml.Token

namespace LayeredConfig.Yaml

/-- The name of an anchor or an alias, from behind its indicator.  It is
followed by a gap or by one of a few marks. -/
def readName (mark : Mark) (cs : List Char) : Option (Scanned (List Char)) :=
  let name := cs.takeWhile isNameChar
  let rest := cs.dropWhile isNameChar
  let ended := atGap rest ||
    match rest with
    | c :: _ => c ∈ ['?', ':', ',', ']', '}', '%', '@', '`']
    | [] => true
  if name.isEmpty || !ended then none else some ⟨name, mark.skip name.length, rest⟩

/-- May a character stand in a tag?  Inside angle brackets also those may that
would end a tag in a flow collection. -/
def isTagChar (bracketed : Bool) (c : Char) : Bool :=
  isNameChar c ||
    c ∈ [';', '/', '?', ':', '@', '&', '=', '+', '$', '.', '!', '~', '*', '\'', '(', ')'] ||
    (bracketed && c ∈ [',', '[', ']'])

/-- How many octets follow the first octet of a character, and what that octet
contributes to its code. -/
def leadOctet? (octet : Nat) : Option (Nat × Nat) :=
  if octet < 0x80 then some (0, octet)
  else if octet < 0xC0 then none
  else if octet < 0xE0 then some (1, octet - 0xC0)
  else if octet < 0xF0 then some (2, octet - 0xE0)
  else if octet < 0xF8 then some (3, octet - 0xF0)
  else none

/-- The characters of a tag, with the characters that are written as octets
behind a percent sign; `left` octets of one that has been begun are to come.
Gives the text back to front, with how many characters it took. -/
def readTagText (bracketed : Bool) (left code : Nat) (text : List Char) (width : Nat) :
    List Char → Option (List Char × Nat × List Char)
  | [] => if left = 0 then some (text, width, []) else none
  | '%' :: a :: b :: rest =>
      match Text.hexValue? a, Text.hexValue? b with
      | some a, some b =>
          let octet := a * 16 + b
          if left = 0 then
            match leadOctet? octet with
            | some (0, code) =>
                readTagText bracketed 0 0 (Char.ofNat code :: text) (width + 3) rest
            | some (n + 1, code) => readTagText bracketed (n + 1) code text (width + 3) rest
            | none => none
          else if octet < 0x80 || octet ≥ 0xC0 then none
          else if left = 1 then
            readTagText bracketed 0 0 (Char.ofNat (code * 0x40 + (octet - 0x80)) :: text)
              (width + 3) rest
          else readTagText bracketed (left - 1) (code * 0x40 + (octet - 0x80)) text (width + 3) rest
      | _, _ => none
  | c :: rest =>
      if left ≠ 0 || c = '%' then none
      else if isTagChar bracketed c then readTagText bracketed 0 0 (c :: text) (width + 1) rest
      else some (text, width, c :: rest)

/-- The text of a tag that is not empty. -/
def readSomeTagText (bracketed : Bool) (mark : Mark) (cs : List Char) :
    Option (Scanned (List Char)) :=
  match readTagText bracketed 0 0 [] 0 cs with
  | some (text, width, rest) =>
      if width = 0 then none else some ⟨text.reverse, mark.skip width, rest⟩
  | none => none

/-- A tag from behind its exclamation mark: its handle and the rest. -/
def readTagParts (mark : Mark) (cs : List Char) : Option (Scanned (List Char × List Char)) :=
  match cs with
  | '<' :: rest => do
      let text ← readSomeTagText true mark.next rest
      match text.rest with
      | '>' :: rest => some ⟨([], text.value), text.mark.next, rest⟩
      | _ => none
  | _ =>
      let name := cs.takeWhile isNameChar
      match cs.dropWhile isNameChar with
      | '!' :: rest => do
          let text ← readSomeTagText false (mark.skip (name.length + 1)) rest
          some ⟨('!' :: (name ++ ['!']), text.value), text.mark, text.rest⟩
      | rest => do
          let (text, width, rest) ← readTagText false 0 0 [] 0 rest
          let suffix := name ++ text.reverse
          some ⟨if suffix.isEmpty then ([], ['!']) else (['!'], suffix),
            mark.skip (name.length + width), rest⟩

/-- A tag from behind its exclamation mark, which a gap has to follow, or a
comma in a flow collection. -/
def readTag (inFlow : Bool) (mark : Mark) (cs : List Char) : Option (Scanned Token) := do
  let parts ← readTagParts mark cs
  if atGap parts.rest || (inFlow && parts.rest.head? == some ',') then
    return ⟨.tag parts.value.1 parts.value.2, parts.mark, parts.rest⟩
  else none

/-- A number of a version: at most nine digits. -/
def readVersionNumber (mark : Mark) (cs : List Char) : Option (Scanned Nat) :=
  let digits := cs.takeWhile Char.isDigit
  if digits.isEmpty || digits.length > 9 then none
  else some ⟨digits.foldl (fun n c => n * 10 + (c.toNat - '0'.toNat)) 0, mark.skip digits.length,
    cs.dropWhile Char.isDigit⟩

/-- The text behind blanks. -/
def skipBlanks (mark : Mark) (cs : List Char) : Mark × List Char :=
  (mark.skip (cs.takeWhile isBlank).length, cs.dropWhile isBlank)

/-- The handle that a directive gives a meaning to. -/
def readHandle (mark : Mark) (cs : List Char) : Option (Scanned (List Char)) :=
  match cs with
  | '!' :: rest =>
      let name := rest.takeWhile isNameChar
      match rest.dropWhile isNameChar with
      | '!' :: rest => some ⟨'!' :: (name ++ ['!']), mark.skip (name.length + 2), rest⟩
      | rest => if name.isEmpty then some ⟨['!'], mark.next, rest⟩ else none
  | _ => none

/-- What a directive says, from behind its name. -/
def readDirectiveValue (name : List Char) (mark : Mark) (cs : List Char) :
    Option (Scanned Token) := do
  let (mark, cs) := skipBlanks mark cs
  if name = "YAML".toList then
    let major ← readVersionNumber mark cs
    match major.rest with
    | '.' :: rest =>
        let minor ← readVersionNumber major.mark.next rest
        return ⟨.version major.value minor.value, minor.mark, minor.rest⟩
    | _ => none
  else if name = "TAG".toList then
    let handle ← readHandle mark cs
    if !(handle.rest.head?.any isBlank) then none
    let (mark, cs) := skipBlanks handle.mark handle.rest
    let meaning ← readSomeTagText true mark cs
    if atGap meaning.rest then
      return ⟨.tagPrefix handle.value meaning.value, meaning.mark, meaning.rest⟩
    else none
  else none

/-- A directive, from behind its percent sign to the end of its line. -/
def readDirective (mark : Mark) (cs : List Char) : Option (Scanned Token) := do
  let name := cs.takeWhile isNameChar
  let rest := cs.dropWhile isNameChar
  if name.isEmpty || !atGap rest then none
  let said ← readDirectiveValue name (mark.skip name.length) rest
  let (mark, rest) ← finishLine said.mark said.rest
  return ⟨said.value, mark, rest⟩

end LayeredConfig.Yaml
