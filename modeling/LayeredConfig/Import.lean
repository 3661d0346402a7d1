/-
Bulk import: every regular file of a directory is a payload to be stored under
the file's name.  A file that cannot be read or stored is skipped; only a
lost store ends the import.
-/
import LayeredConfig.FileTree
import LayeredConfig.Manager

namespace LayeredConfig

/-- How many files were stored, and how many were not. -/
structure ImportReport where
  stored : Nat := 0
  skipped : Nat := 0
deriving DecidableEq, Repr

namespace Import

/-- The key and the value that a file stands for, if its content can be read, it
and the name are texts, and the content is a payload. -/
def decodeFile (settings : Settings) (file : FileTree.Listed) : Option (String × StoredValue) := do
  let name ← String.fromUTF8? file.name
  let payload ← file.content?.bind String.fromUTF8?
  let value ← (StoredValue.decode payload).toOption
  return (settings.prefixed name, value)

/-- Store files one after another, on top of what has been reported. -/
def storeFiles {σ : Type} (settings : Settings) (store : KeyStore σ) (report : ImportReport) :
    (files : List FileTree.Listed) → Action σ ImportReport
  | [] => return report
  | file :: rest =>
      match decodeFile settings file with
      | none => storeFiles settings store { report with skipped := report.skipped + 1 } rest
      | some (key, value) => do
          match ← Action.observe (store.storeValue key value) with
          | .ok () => storeFiles settings store { report with stored := report.stored + 1 } rest
          | .error failure =>
              if failure.isConnectivity then throw failure
              else storeFiles settings store { report with skipped := report.skipped + 1 } rest

end Import

namespace Manager

variable {σ η : Type}

/-- Import a directory.  It is listed before a store is taken out. -/
def loadDefaults (m : Manager σ η) (tree : FileTree) (directory : ByteArray) :
    Action σ ImportReport :=
  match tree.regularFiles directory with
  | .error fault => throw (.io fault.message)
  | .ok files => m.provider.withStore fun store => Import.storeFiles m.settings store {} files

end Manager

end LayeredConfig
