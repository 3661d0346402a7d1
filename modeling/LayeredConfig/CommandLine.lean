/-
The program: it reads its arguments, assembles settings from a file, the
environment and the options, and carries out one command over a pool of
connections.
-/
import LayeredConfig.CommandLine.Arguments
import LayeredConfig.Import
import LayeredConfig.Pool
import LayeredConfig.SettingsLoader

namespace LayeredConfig.CommandLine

/-- What surrounds the program: the files it sees and the variables of its
environment. -/
structure Surroundings where
  tree : FileTree
  environment : List (ByteArray × ByteArray)

namespace Surroundings

def valueOf? (s : Surroundings) (name : String) : Option ByteArray :=
  s.environment.lookup name.toUTF8

/-- The user's configuration directory: the one that a variable names by an
absolute path, or else the usual one below the home directory. -/
def configDirectory? (s : Surroundings) : Option ByteArray :=
  match (s.valueOf? "XDG_CONFIG_HOME").filter isAbsolutePath, s.valueOf? "HOME" with
  | some directory, _ => some directory
  | none, some home => if home.size = 0 then none else some (home ++ "/.config".toUTF8)
  | none, none => none

end Surroundings

/-- Settings with those that options give in place of their own. -/
def Options.applyTo (options : Options) (settings : Settings) : Settings :=
  { settings with
    redis := { settings.redis with url := options.redisUrl.getD settings.redis.url }
    keyPrefix := options.keyPrefix.getD settings.keyPrefix
    keyPaths := if options.keyPaths.isEmpty then settings.keyPaths else options.keyPaths }

/-- The loader of the settings beneath the options: the file that is named, or
the first one found, and the environment. -/
def settingsLoader (options : Options) (s : Surroundings) : SettingsLoader where
  file := options.config.elim .discover .path
  overrides := some (Overrides.ofEnvironment Overrides.defaultMarker s.environment)

def loadSettings (options : Options) (s : Surroundings) : Except Failure Settings := do
  let settings ← (settingsLoader options s).load s.tree
    (SettingsFile.defaultLocations s.configDirectory?)
  let settings := options.applyTo settings
  settings.validate
  return settings

def Format.render : Format → Answer → String
  | json, answer => answer.toJson.render
  | text, answer => answer.toText

inductive Outcome where
  | done (output : String)
  | failed (failure : Failure)
  | unusable
  | help
deriving DecidableEq

/-- The status that the program ends with. -/
def Outcome.exitStatus : Outcome → Nat
  | done _ => 0
  | help => 0
  | unusable => 2
  | failed failure => if failure.isNotFound then 2 else 1

def versionLine : String := "confmgr 0.1.0\n"

/-- Carry out a request and say what is printed. -/
def perform (manager : Manager PoolState Connection) (pool : Pool) (tree : FileTree)
    (options : Options) (request : Request) : Action PoolState String := do
  let scope := Scope.ofPairs options.scope
  let render := fun answer => (options.format.getD .json).render answer ++ "\n"
  match request with
  | .string key => render <$> manager.lookupString scope key
  | .hash key => render <$> manager.lookupHash scope key
  | .list key => render <$> manager.lookupList scope key
  | .field key field => render <$> manager.lookupHashField scope key field
  | .index key index => render <$> manager.lookupListIndex scope key index
  | .loadDefaults directory => do
      let report ← manager.loadDefaults tree directory
      return "stored " ++ toString report.stored ++ ", skipped " ++ toString report.skipped ++ "\n"
  | .check => do
      pool.check
      return "ok\n"

/-- Load the settings, make a pool and carry out a request. -/
def serve (options : Options) (request : Request) (s : Surroundings) :
    Action PoolState String := do
  let settings ← Action.ofExcept (loadSettings options s)
  let pool ← Action.ofExcept (Pool.new settings.redis)
  let manager ← Action.ofExcept (Manager.new settings pool.provider)
  perform manager pool s.tree options request

def run (arguments : List ByteArray) (s : Surroundings) (server : Server) : Outcome × Server :=
  match Arguments.parse arguments with
  | .version => (.done versionLine, server)
  | .help => (.help, server)
  | .unusable => (.unusable, server)
  | .run options request =>
      match (serve options request s).outcome { server := server } with
      | (.ok output, state) => (.done output, state.server)
      | (.error failure, state) => (.failed failure, state.server)

end LayeredConfig.CommandLine
