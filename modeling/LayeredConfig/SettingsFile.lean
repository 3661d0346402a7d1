/-
Settings files: reading one, and finding the first one among the places where
it may be.
-/
import LayeredConfig.FileTree
import LayeredConfig.Settings.Document
import LayeredConfig.Text.Lossy

namespace LayeredConfig

/-- A settings file that has been read.  Its document is kept, so that only
what it names is laid over other settings. -/
structure SettingsFile where
  path : PathNames
  settings : Settings
  document : Yaml.Value

namespace SettingsFile

/-- The largest settings file, in bytes. -/
def sizeLimit : Nat := 1024 * 1024

/-- The failure of a path that leads nowhere. -/
def inaccessible (path : ByteArray) (fault : PathFault) : Failure :=
  .unparsable ("Invalid or inaccessible settings file: " ++ Text.lossy path) (some fault.message)

/-- The failure of a file that is too large. -/
def tooLarge (size : Nat) : Failure :=
  .unparsable ("Settings file too large: " ++ toString size ++ " bytes (max " ++
    toString sizeLimit ++ " bytes)") none

/-- The text of a file, if it is not too large. -/
def contentOf : FileNode → Except Failure String
  | .file content =>
      if content.size > sizeLimit then .error (tooLarge content.size)
      else
        match String.fromUTF8? content with
        | some text => .ok text
        | none => .error (.io PathFault.notText.message)
  | .locked content =>
      if content.size > sizeLimit then .error (tooLarge content.size)
      else .error (.io PathFault.permissionDenied.message)
  | _ => .error (.io PathFault.isADirectory.message)

def load (tree : FileTree) (path : ByteArray) : Except Failure SettingsFile :=
  match tree.locate path with
  | .error fault => .error (inaccessible path fault)
  | .ok way => do
      let content ← contentOf (tree.nodeAt way)
      let document ← Settings.parseDocument content
      let settings ← Settings.ofDocument document
      return ⟨FileTree.canonicalNames way, settings, document⟩

/-- Read the first of the candidates that is a file.  A file that cannot be
read is not passed over. -/
def discoverIn (tree : FileTree) (candidates : List ByteArray) :
    Except Failure (Option SettingsFile) :=
  match candidates.find? tree.isFile with
  | some path => some <$> load tree path
  | none => .ok none

/-- Where settings files are looked for: in the system's directory, in the
working directory, and in the user's configuration directory if there is one. -/
def defaultLocations (configDirectory : Option ByteArray) : List ByteArray :=
  "/etc/confmgr.yaml".toUTF8 :: "confmgr.yaml".toUTF8 ::
    (configDirectory.map fun directory => directory ++ "/confmgr/config.yaml".toUTF8).toList

/-- Lay what the file names over other settings. -/
def applyTo (file : SettingsFile) (base : Settings) : Except Failure Settings :=
  base.layer file.document

end SettingsFile

end LayeredConfig
