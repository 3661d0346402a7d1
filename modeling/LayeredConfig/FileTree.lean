/-
Files and directories as the program sees them: a tree with a working
directory in it, names and contents that are plain bytes, and symbolic links
that are followed while a path is walked.
-/
import LayeredConfig.Bytes

namespace LayeredConfig

/-- What a name in a directory stands for.  A locked file is a regular file like
any other, but its content cannot be read. -/
inductive FileNode where
  | file (content : ByteArray)
  | locked (content : ByteArray)
  | directory (entries : List (ByteArray × FileNode))
  | symlink (target : ByteArray)

/-- Why a path leads nowhere, or not to what is wanted. -/
inductive PathFault where
  | notFound
  | notADirectory
  | isADirectory
  | tooManyLinks
  | nameTooLong
  | interiorNul
  | notText
  | permissionDenied
deriving DecidableEq, Repr

/-- The wording of a fault. -/
def PathFault.message : PathFault → String
  | notFound => "No such file or directory (os error 2)"
  | notADirectory => "Not a directory (os error 20)"
  | isADirectory => "Is a directory (os error 21)"
  | tooManyLinks => "Too many levels of symbolic links (os error 40)"
  | nameTooLong => "File name too long (os error 36)"
  | interiorNul => "file name contained an unexpected NUL byte"
  | notText => "stream did not contain valid UTF-8"
  | permissionDenied => "Permission denied (os error 13)"

/-- A path's names, without the slashes between them. -/
abbrev PathNames := List ByteArray

namespace FileNode

def emptyDirectory : FileNode := directory []

def child? (name : ByteArray) : List (ByteArray × FileNode) → Option FileNode
  | [] => none
  | (head, node) :: rest => if head = name then some node else child? name rest

/-- Put a node under a name, in place of one that is there. -/
def putEntry (name : ByteArray) (node : FileNode) :
    List (ByteArray × FileNode) → List (ByteArray × FileNode)
  | [] => [(name, node)]
  | (head, kept) :: rest =>
      if head = name then (name, node) :: rest else (head, kept) :: putEntry name node rest

/-- Put a node below another one; directories on the way are made. -/
def put (node : FileNode) : (path : PathNames) → (root : FileNode) → FileNode
  | [], _ => node
  | name :: rest, .directory entries =>
      .directory (putEntry name (put node rest ((child? name entries).getD emptyDirectory)) entries)
  | name :: rest, _ => .directory [(name, put node rest emptyDirectory)]

/-- Make sure that a directory is there; what it holds stays. -/
def putDirectory : (path : PathNames) → (root : FileNode) → FileNode
  | [], .directory entries => .directory entries
  | [], _ => emptyDirectory
  | name :: rest, .directory entries =>
      .directory (putEntry name (putDirectory rest ((child? name entries).getD emptyDirectory)) entries)
  | name :: rest, _ => .directory [(name, putDirectory rest emptyDirectory)]

end FileNode

/-- Cut bytes at every slash. -/
def splitPath (path : ByteArray) : PathNames :=
  let (names, last) := path.toList.foldr
    (fun b (acc : PathNames × List UInt8) =>
      if b = 0x2F then (⟨acc.2.toArray⟩ :: acc.1, []) else (acc.1, b :: acc.2)) ([], [])
  ⟨last.toArray⟩ :: names

def isAbsolutePath (path : ByteArray) : Bool := path.toList.head? == some 0x2F

/-- A tree with the names that lead from its root to the working directory. -/
structure FileTree where
  root : FileNode := FileNode.emptyDirectory
  cwd : PathNames := []

namespace FileTree

/-- A place in the tree: the nodes on the way there, the nearest first.  The
root is the place with an empty way. -/
abbrev Way := List (ByteArray × FileNode)

/-- The node at the end of a way. -/
def nodeAt (tree : FileTree) (way : Way) : FileNode :=
  match way with
  | [] => tree.root
  | (_, node) :: _ => node

/-- Walk on along names.  Each link that is followed costs one of `links`. -/
def walk (tree : FileTree) (links : Nat) (way : Way) (names : PathNames) :
    Except PathFault Way :=
  match names with
  | [] => .ok way
  | name :: rest =>
      match tree.nodeAt way with
      | .directory entries =>
          if name.size = 0 ∨ name = ".".toUTF8 then walk tree links way rest
          else if name = "..".toUTF8 then walk tree links way.tail rest
          else if name.size > 255 then .error .nameTooLong
          else
            match FileNode.child? name entries with
            | none => .error .notFound
            | some (.symlink target) =>
                match links with
                | 0 => .error .tooManyLinks
                | links + 1 =>
                    if target.size = 0 then .error .notFound
                    else walk tree links (if isAbsolutePath target then [] else way)
                      (splitPath target ++ rest)
            | some node => walk tree links ((name, node) :: way) rest
      | _ => .error .notADirectory
termination_by (links, names.length)

/-- How many links a path may go through. -/
def linkLimit : Nat := 40

/-- The longest path, in bytes. -/
def pathLimit : Nat := 4095

/-- Walk a path from the working directory, or from the root. -/
def locate (tree : FileTree) (path : ByteArray) : Except PathFault Way :=
  if path.toList.contains 0 then .error .interiorNul
  else if path.size = 0 then .error .notFound
  else if path.size > pathLimit then .error .nameTooLong
  else if isAbsolutePath path then tree.walk linkLimit [] (splitPath path)
  else
    match tree.walk linkLimit [] tree.cwd with
    | .ok start => tree.walk linkLimit start (splitPath path)
    | .error fault => .error fault

def isFile (tree : FileTree) (path : ByteArray) : Bool :=
  match tree.locate path with
  | .ok way =>
      match tree.nodeAt way with
      | .file _ => true
      | .locked _ => true
      | _ => false
  | .error _ => false

/-- The names from the root to the end of a way. -/
def canonicalNames (way : Way) : PathNames := (way.map Prod.fst).reverse

/-- What is below the working directory of the names from the root; all of
them if they lead elsewhere. -/
def relativeNames (tree : FileTree) (names : PathNames) : PathNames :=
  if tree.cwd.isPrefixOf names then names.drop tree.cwd.length else names

/-- The names of a path that lead somewhere else. -/
def properNames (path : ByteArray) : PathNames :=
  (splitPath path).filter fun name => name.size ≠ 0 ∧ name ≠ ".".toUTF8

/-- Put a node below the working directory. -/
def put (tree : FileTree) (path : ByteArray) (node : FileNode) : FileTree :=
  { tree with root := FileNode.put node (tree.cwd ++ properNames path) tree.root }

/-- Make a directory below the working directory. -/
def putDirectory (tree : FileTree) (path : ByteArray) : FileTree :=
  { tree with root := FileNode.putDirectory (tree.cwd ++ properNames path) tree.root }

/-- A regular file directly in a directory, with its content if that can be
read. -/
structure Listed where
  name : ByteArray
  content? : Option ByteArray
deriving DecidableEq

/-- Is one name before another, byte by byte? -/
def Listed.le (a b : Listed) : Bool :=
  a.name.toList ≤ b.name.toList

/-- The regular files directly in a directory, in the byte order of their
names.  Links and directories are none. -/
def regularFiles (tree : FileTree) (path : ByteArray) : Except PathFault (List Listed) := do
  let way ← tree.locate path
  match tree.nodeAt way with
  | .directory entries =>
      return (entries.filterMap fun (name, node) =>
        match node with
        | .file content => some ⟨name, some content⟩
        | .locked _ => some ⟨name, none⟩
        | _ => none).mergeSort Listed.le
  | _ => throw .notADirectory

end FileTree

end LayeredConfig
