/-
Reading a JSON text.  The reader goes through the tokens once, with the arrays
and objects that are still open on a stack, so depth costs it nothing.
-/
import LayeredConfig.Json
import LayeredConfig.Json.Token

namespace LayeredConfig.Json

/-- An array or object that is still open, with what it holds back to front;
an object may have the name of a member whose value is to come. -/
inductive Frame where
  | array (items : List Json)
  | object (members : List (Option String × Json))
  | member (name : Option String) (members : List (Option String × Json))

/-- What may come next. -/
inductive Awaiting where
  | value
  | itemOrEnd
  | nameOrEnd
  | name
  | colon
  | separator
  | nothing (read : Json)

/-- How far the reader has come. -/
structure Reading where
  stack : List Frame := []
  awaiting : Awaiting := .value

namespace Reading

/-- A value has been read: it is the whole text, or goes into what is open. -/
def close (stack : List Frame) (value : Json) : Option Reading :=
  match stack with
  | [] => some ⟨[], .nothing value⟩
  | .array items :: rest => some ⟨.array (value :: items) :: rest, .separator⟩
  | .member name members :: rest => some ⟨.object ((name, value) :: members) :: rest, .separator⟩
  | .object _ :: _ => none

/-- A value starts with this token, or is it. -/
def start (stack : List Frame) : Token → Option Reading
  | .punctuation '[' => some ⟨.array [] :: stack, .itemOrEnd⟩
  | .punctuation '{' => some ⟨.object [] :: stack, .nameOrEnd⟩
  | .punctuation _ => none
  | .string text => close stack (.string text)
  | .number spelling => close stack (.number spelling)
  | .word name =>
      if name = "true".toList then close stack (.bool true)
      else if name = "false".toList then close stack (.bool false)
      else close stack .null

def nameMember (stack : List Frame) (token : Token) : Option Reading :=
  match stack, token with
  | .object members :: rest, .string name => some ⟨.member name members :: rest, .colon⟩
  | _, _ => none

/-- The end of what was opened last. -/
def finish (stack : List Frame) (token : Token) : Option Reading :=
  match stack, token with
  | .array items :: rest, .punctuation ']' => close rest (.array items.reverse)
  | .object members :: rest, .punctuation '}' => close rest (.object members.reverse)
  | _, _ => none

def step (r : Reading) (token : Token) : Option Reading :=
  match r.awaiting with
  | .value => start r.stack token
  | .itemOrEnd =>
      if token = .punctuation ']' then finish r.stack token else start r.stack token
  | .nameOrEnd =>
      if token = .punctuation '}' then finish r.stack token else nameMember r.stack token
  | .name => nameMember r.stack token
  | .colon => if token = .punctuation ':' then some ⟨r.stack, .value⟩ else none
  | .separator =>
      if token = .punctuation ',' then
        match r.stack with
        | .array _ :: _ => some ⟨r.stack, .value⟩
        | _ => some ⟨r.stack, .name⟩
      else finish r.stack token
  | .nothing _ => none

end Reading

def parse? (s : String) : Option Json := do
  let tokens ← tokens? s
  let last ← tokens.foldlM Reading.step {}
  match last.awaiting with
  | .nothing value => some value
  | _ => none

example : (parse? "[1, \x7b\"a\": [null, \"\\u00e9\"]\x7d]").map render =
    some "[1,\x7b\"a\":[null,\"é\"]\x7d]" := by decide +kernel
example : (parse? "[1,]").isNone = true := by decide +kernel
example : (parse? "01").isNone = true := by decide +kernel

end LayeredConfig.Json
