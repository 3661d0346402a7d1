/-
The program as it is started: its arguments, the variables and the files that
it looks at are handed to the pure part, and what that comes to is printed.
No connection is opened from here, so every server is out of reach.
-/
import LayeredConfig.CommandLine

namespace LayeredConfig.CommandLine

/-- The variables that the program looks at. -/
def watchedVariables : List String :=
  "HOME" :: "XDG_CONFIG_HOME" ::
    Overridable.inOrder.map fun setting => Overrides.defaultMarker ++ setting.name

def readEnvironment : IO (List (ByteArray × ByteArray)) :=
  watchedVariables.filterMapM fun name => do
    return (← IO.getEnv name).map fun value => (name.toUTF8, value.toUTF8)

/-- A regular file.  Of one that cannot be read only the size is known. -/
def readFile (path : String) : IO FileNode := do
  let place ← IO.FS.realPath path
  try return .file (← IO.FS.readBinFile place)
  catch _ => return .locked ⟨.replicate (← place.metadata).byteSize.toNat 0⟩

/-- A file, or a directory with the files in it. -/
def readNode (path : String) : IO FileNode := do
  let place ← IO.FS.realPath path
  if ← place.isDir then
    let entries ← place.readDir
    let files ← entries.toList.filterMapM fun entry => do
      if (← entry.path.symlinkMetadata).type == .file then
        return some (entry.fileName.toUTF8, ← readFile entry.path.toString)
      else return none
    return .directory files
  else readFile path

/-- Add what is at a path to a tree: under its real name and, if a link leads
there, under the given one.  A path that leads nowhere adds nothing. -/
def addPath (tree : FileTree) (path : ByteArray) : IO FileTree := do
  match String.fromUTF8? path with
  | none => return tree
  | some name =>
      try
        let node ← readNode name
        let place := (← IO.FS.realPath name).toString.toUTF8
        let below := ({ tree with cwd := [] } : FileTree).put place node
        let tree := { below with cwd := tree.cwd }
        return if (tree.locate path).toOption.isSome then tree else tree.put path (.symlink place)
      catch _ => return tree

/-- The paths that the program is going to look at. -/
def watchedPaths (arguments : List ByteArray) (s : Surroundings) : List ByteArray :=
  match Arguments.parse arguments with
  | .run options request =>
      let settings := options.config.elim
        (SettingsFile.defaultLocations s.configDirectory?) fun path => [path]
      match request with
      | .loadDefaults directory => settings ++ [directory]
      | _ => settings
  | _ => []

def readSurroundings (arguments : List ByteArray) : IO Surroundings := do
  let environment ← readEnvironment
  let cwd := (← IO.currentDir).toString.toUTF8
  let start := ({ cwd := FileTree.properNames cwd } : FileTree).putDirectory .empty
  let tree ← (watchedPaths arguments ⟨start, environment⟩).foldlM addPath start
  return ⟨tree, environment⟩

def unreachable : Server := { address := .socket .empty, accepting := false }

/-- What is said of arguments that cannot be used. -/
def usage : String :=
  "Usage: confmgr [OPTIONS] string|hash|list|field|index|load-defaults|check [VALUES]"

end LayeredConfig.CommandLine

open LayeredConfig CommandLine in
def main (arguments : List String) : IO UInt32 := do
  let arguments := arguments.map String.toUTF8
  let (outcome, _) := run arguments (← readSurroundings arguments) unreachable
  match outcome with
  | .done output => IO.print output
  | .help => IO.println usage
  | .unusable => IO.eprintln usage
  | .failed failure =>
      IO.eprintln (if failure.isNotFound then failure.message else "Error: " ++ failure.message)
  return outcome.exitStatus.toUInt32
