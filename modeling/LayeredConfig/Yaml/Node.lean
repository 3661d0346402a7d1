/-
The nodes of a YAML document, and the value that they make up.  A node may
stand for another one by an alias; following aliases is bounded, in depth by
the nesting that is allowed and in number by the size of the document.
-/
import LayeredConfig.Yaml.Event
import LayeredConfig.Yaml.Spelling
import LayeredConfig.Yaml.TokenStream

namespace LayeredConfig.Yaml

/-- A node.  Anchors and aliases are numbers. -/
inductive Node where
  | scalar (anchor : Option Nat) (tag : Option (List Char)) (text : List Char) (plain : Bool)
  | sequence (anchor : Option Nat) (tag : Option (List Char)) (items : List Node)
  | mapping (anchor : Option Nat) (tag : Option (List Char)) (entries : List (Node × Node))
  | alias (anchor : Nat)

namespace Node

/-- A collection that is still open, with its nodes back to front; a mapping
may have a key whose value is to come. -/
inductive Open where
  | sequence (anchor : Option Nat) (tag : Option (List Char)) (items : List Node)
  | mapping (anchor : Option Nat) (tag : Option (List Char)) (entries : List (Node × Node))
      (key : Option Node)

/-- How far the events have been put together: the numbers of the anchors'
names, the open collections, and the finished root. -/
structure Assembly where
  names : List (List Char × Nat) := []
  stack : List Open := []
  root : Option Node := none

namespace Assembly

/-- The number of a new anchor is how many names there are.  A name that is
used again gets a new number, which a later name may then share. -/
def number (a : Assembly) (anchor : Option (List Char)) : Option Nat × Assembly :=
  match anchor with
  | none => (none, a)
  | some name =>
      let n := a.names.length
      (some n, { a with names := (name, n) :: a.names.filter fun entry => entry.1 != name })

def close (a : Assembly) (node : Node) : Option Assembly :=
  match a.stack with
  | [] => some { a with root := some node }
  | .sequence anchor tag items :: rest =>
      some { a with stack := .sequence anchor tag (node :: items) :: rest }
  | .mapping anchor tag entries none :: rest =>
      some { a with stack := .mapping anchor tag entries (some node) :: rest }
  | .mapping anchor tag entries (some key) :: rest =>
      some { a with stack := .mapping anchor tag ((key, node) :: entries) none :: rest }

/-- Take one event.  An alias has to name an anchor that has been seen. -/
def add (a : Assembly) : Event → Option Assembly
  | .scalar p text plain =>
      let (anchor, a) := a.number p.anchor
      a.close (.scalar anchor p.tag text plain)
  | .alias name => (a.names.lookup name).bind fun n => a.close (.alias n)
  | .sequenceStart p =>
      let (anchor, a) := a.number p.anchor
      some { a with stack := .sequence anchor p.tag [] :: a.stack }
  | .mappingStart p =>
      let (anchor, a) := a.number p.anchor
      some { a with stack := .mapping anchor p.tag [] none :: a.stack }
  | .sequenceEnd =>
      match a.stack with
      | .sequence anchor tag items :: rest =>
          { a with stack := rest }.close (.sequence anchor tag items.reverse)
      | _ => none
  | .mappingEnd =>
      match a.stack with
      | .mapping anchor tag entries none :: rest =>
          { a with stack := rest }.close (.mapping anchor tag entries.reverse)
      | _ => none

end Assembly

def ofEvents? (events : List Event) : Option Node :=
  (events.foldlM Assembly.add {}).bind Assembly.root

mutual

/-- The nodes with anchors, in the order in which they start. -/
def anchored : Node → List (Nat × Node)
  | node@(.scalar anchor _ _ _) => (anchor.map (·, node)).toList
  | node@(.sequence anchor _ items) => (anchor.map (·, node)).toList ++ anchoredItems items
  | node@(.mapping anchor _ entries) => (anchor.map (·, node)).toList ++ anchoredEntries entries
  | .alias _ => []

def anchoredItems : List Node → List (Nat × Node)
  | [] => []
  | item :: rest => anchored item ++ anchoredItems rest

def anchoredEntries : List (Node × Node) → List (Nat × Node)
  | [] => []
  | (key, value) :: rest => anchored key ++ (anchored value ++ anchoredEntries rest)

end

/-- Composing values counts the aliases that it may still follow. -/
abbrev Composing := StateT Nat Option

def refuse {α : Type} : Composing α := fun _ => none

/-- The name of a tag of one's own: without its exclamation mark, and with
only one of several. -/
def ownTag? : Option (List Char) → Option String
  | some ('!' :: '!' :: c :: rest) => some (String.ofList (c :: rest))
  | some ('!' :: rest) => some (String.ofList rest)
  | _ => none

/-- A value under a tag of one's own, which has to have a name. -/
def underTag (tag : Option String) (value : Value) : Composing Value :=
  match tag with
  | none => return value
  | some name => if name.isEmpty then refuse else return .tagged name value

def scalarValue? (tag : Option (List Char)) (text : String) (plain : Bool) : Option Value :=
  match ownTag? tag, tag with
  | some _, _ => if plain then Spelling.plain? text else some (.text text)
  | none, some core => Spelling.core? core text
  | none, none => if plain then Spelling.plain? text else some (.text text)

/-- The node that an alias stands for. -/
def follow (anchors : List (Nat × Node)) (node : Node) : Composing Node :=
  match node with
  | .alias n => fun left =>
      match left, anchors.lookup n with
      | left + 1, some target => some (target, left)
      | _, _ => none
  | node => return node

/-- The entries of a mapping, if no two keys are the same. -/
def distinctEntries? (entries : List (Value × Value)) : Option (List (Value × Value)) :=
  match entries with
  | [] => some []
  | (key, value) :: rest =>
      match distinctEntries? rest with
      | some others => if Value.hasKey key others then none else some ((key, value) :: others)
      | none => none

/-- Compose the value of a node, with so many levels of nesting left. -/
def compose (anchors : List (Nat × Node)) : (levels : Nat) → Node → Composing Value
  | levels, node => do
      match ← follow anchors node with
      | .alias _ => refuse
      | .scalar _ tag text plain => do
          let value ← StateT.lift (scalarValue? tag (String.ofList text) plain)
          underTag (ownTag? tag) value
      | .sequence _ tag items =>
          match levels with
          | 0 => refuse
          | levels + 1 => do
              let values ← items.mapM (compose anchors levels)
              underTag (ownTag? tag) (.sequence values)
      | .mapping _ tag entries =>
          match levels with
          | 0 => refuse
          | levels + 1 => do
              let values ← entries.mapM fun (key, value) => do
                let key ← compose anchors levels key
                let value ← compose anchors levels value
                return (key, value)
              let values ← StateT.lift (distinctEntries? values)
              underTag (ownTag? tag) (.mapping values)

/-- How deep collections may be nested. -/
def depthLimit : Nat := 128

/-- How many aliases may be followed for every event of the document. -/
def aliasesPerEvent : Nat := 100

end Node

namespace Value

/-- The value of a stream that holds at most one document; an empty stream is
null. -/
def ofStream? (stream : String) : Option Value := do
  let tokens ← tokens? stream.toList
  let events ← Grammar.events? tokens
  if events.isEmpty then return .null
  let root ← Node.ofEvents? events
  let (value, _) ← Node.compose root.anchored.reverse Node.depthLimit root
    (events.length * Node.aliasesPerEvent)
  return value

end Value

end LayeredConfig.Yaml
