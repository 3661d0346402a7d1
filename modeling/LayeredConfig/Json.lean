/-
JSON texts as values, and how a value is written compactly: no blanks, the
short escapes where there is one, and everything beyond ASCII as it is.
-/
namespace LayeredConfig

/-- A JSON value.  Numbers keep their spelling.  A string whose escapes name
half of a surrogate pair has no text; members keep their order. -/
inductive Json where
  | null
  | bool (value : Bool)
  | number (spelling : List Char)
  | string (text : Option String)
  | array (items : List Json)
  | object (members : List (Option String × Json))

namespace Json

def text (s : String) : Json := string (some s)

def hexDigit (n : Nat) : Char :=
  if n < 10 then Char.ofNat ('0'.toNat + n) else Char.ofNat ('a'.toNat + (n - 10))

/-- One character between quotes.  Quote, backslash and the controls below the
space are escaped, five of them by a letter. -/
def escapeChar (c : Char) : List Char :=
  if c = '"' then ['\\', '"']
  else if c = '\\' then ['\\', '\\']
  else if c = '\x08' then ['\\', 'b']
  else if c = '\t' then ['\\', 't']
  else if c = '\n' then ['\\', 'n']
  else if c = '\x0c' then ['\\', 'f']
  else if c = '\r' then ['\\', 'r']
  else if c.toNat < 0x20 then
    ['\\', 'u', '0', '0', hexDigit (c.toNat / 16), hexDigit (c.toNat % 16)]
  else [c]

def quote (s : String) : List Char :=
  '"' :: (s.toList.flatMap escapeChar ++ ['"'])

mutual

def chars : Json → List Char
  | null => "null".toList
  | bool true => "true".toList
  | bool false => "false".toList
  | number spelling => spelling
  | string s => quote (s.getD "")
  | array items => '[' :: (itemChars items ++ [']'])
  | object members => '{' :: (memberChars members ++ ['}'])

/-- The characters of items, with commas between them. -/
def itemChars : List Json → List Char
  | [] => []
  | [item] => item.chars
  | item :: rest => item.chars ++ ',' :: itemChars rest

/-- The characters of members, with commas between them. -/
def memberChars : List (Option String × Json) → List Char
  | [] => []
  | [(name, value)] => quote (name.getD "") ++ ':' :: value.chars
  | (name, value) :: rest =>
      quote (name.getD "") ++ ':' :: (value.chars ++ ',' :: memberChars rest)

end

def render (value : Json) : String := String.ofList value.chars

end Json

end LayeredConfig
