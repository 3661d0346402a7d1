/-
Quoted scalars.  Between single quotes only the quote itself is written in a
special way, twice; between double quotes a backslash starts an escape.
-/
import LayeredConfig.Text.HexDigit
import LayeredConfig.Yaml.Gap

namespace LayeredConfig.Yaml

/-- The character that an escape of one letter stands for. -/
def letterEscape? (c : Char) : Option Char :=
  if c = '0' then some '\x00'
  else if c = 'a' then some '\x07'
  else if c = 'b' then some '\x08'
  else if c = 't' || c = '\t' then some '\t'
  else if c = 'n' then some '\n'
  else if c = 'v' then some '\x0b'
  else if c = 'f' then some '\x0c'
  else if c = 'r' then some '\r'
  else if c = 'e' then some '\x1b'
  else if c = ' ' then some ' '
  else if c = '"' then some '"'
  else if c = '/' then some '/'
  else if c = '\\' then some '\\'
  else if c = 'N' then some '\u0085'
  else if c = '_' then some '\u00a0'
  else if c = 'L' then some '\u2028'
  else if c = 'P' then some '\u2029'
  else none

/-- How many hexadecimal digits follow a letter of an escape. -/
def codeLength? (c : Char) : Option Nat :=
  if c = 'x' then some 2
  else if c = 'u' then some 4
  else if c = 'U' then some 8
  else none

/-- The character of a code, if it is one. -/
def charOfCode? (code : Nat) : Option Char :=
  if h : code.isValidChar then some (Char.ofNatAux code h) else none

/-- What of a quoted scalar is being read: the gap behind a word, which is
mostly empty, an escape, or the code of one. -/
inductive QuotedPart where
  | gap (gap : Gap)
  | escape
  | code (digits value : Nat)

/-- The rest of a quoted scalar, to behind its closing quote; what has been
read stands back to front. -/
def readQuoted (quote : Char) (part : QuotedPart) (text : List Char) (mark : Mark) :
    List Char → Option (Scanned (List Char))
  | [] => none
  | '\r' :: '\n' :: rest =>
      match part with
      | .gap gap => readQuoted quote (.gap (gap.addBreak '\n')) text (mark.newLine 2) rest
      | .escape => readQuoted quote (.gap Gap.afterEscape) text (mark.newLine 2) rest
      | .code _ _ => none
  | c :: rest =>
      match part with
      | .gap gap =>
          if isBreak c then readQuoted quote (.gap (gap.addBreak c)) text (mark.newLine 1) rest
          else if isBlank c then readQuoted quote (.gap (gap.addBlank c)) text mark.next rest
          else if mark.column = 0 && atDocumentMark (c :: rest) then none
          else
            let text := gap.textBackwards ++ text
            if c = quote then
              match rest with
              | '\'' :: rest =>
                  if quote = '\'' then
                    readQuoted quote (.gap {}) ('\'' :: text) (mark.skip 2) rest
                  else some ⟨text, mark.next, '\'' :: rest⟩
              | rest => some ⟨text, mark.next, rest⟩
            else if quote = '"' && c = '\\' then readQuoted quote .escape text mark.next rest
            else readQuoted quote (.gap {}) (c :: text) mark.next rest
      | .escape =>
          if isBreak c then
            readQuoted quote (.gap Gap.afterEscape) text (mark.newLine 1) rest
          else
            match letterEscape? c, codeLength? c with
            | some e, _ => readQuoted quote (.gap {}) (e :: text) mark.next rest
            | none, some digits => readQuoted quote (.code digits 0) text mark.next rest
            | none, none => none
      | .code digits value =>
          match Text.hexValue? c with
          | none => none
          | some d =>
              if digits ≤ 1 then
                match charOfCode? (value * 16 + d) with
                | some e => readQuoted quote (.gap {}) (e :: text) mark.next rest
                | none => none
              else readQuoted quote (.code (digits - 1) (value * 16 + d)) text mark.next rest

end LayeredConfig.Yaml
